import TenantCloud.Proofs.Effect.Turns
import TenantCloud.Proofs.Reconcile.Histories

/-!
# Writes of what is no longer so

A pass that writes the status of a vApp has found that vApp before, with a status from which the
lifecycle leads to the new one (`Errand.attempt_heeds`). While other passes are under way, that is
all that is certain: where the status has changed since, the lifecycle leads from the one that is
there now to the one that is written only if it leads there from everywhere
(`Race.write_follows_lifecycle_iff`). So a vApp that is deleted can be deployed again
(`Race.deleted_vapp_is_deployed`).
-/

set_option autoImplicit false

namespace TenantCloud

/-- Each status but the end can be reached from one other status only. -/
theorem VAppStatus.Moves.mayBecome_iff {s t : VAppStatus} (h : s.Moves t) (now : VAppStatus) :
    now.mayBecome t = true ↔ t = .deleted ∨ now = s ∨ now = t := by
  revert h
  cases s <;> cases t <;> cases now <;> decide

/-- The turn finds a vApp by its name. -/
inductive Race.Turn.Finds : Race.Turn World → VApp → Prop
  | byName {w : World} {vdcId : Uuid} {name : String} {a : VApp} :
      a ∈ w.store.vapps → Finds ⟨w, .store (.getVAppByName vdcId name), .ok (some a)⟩ a

/-- What a pass has gone by when it makes a call: a status that it writes follows the one of the
vApp that it found. -/
def Errand.Heeds (e : Errand) : Call → List (Race.Turn World) → Prop
  | .store (.updateVAppStatus id status), past =>
    e.IsAboutVApp ∧ (status = .deleted ↔ e.IsAboutEnd) ∧
      ∃ t ∈ past, ∃ a, t.Finds a ∧ a.id = id ∧ a.status.Moves status
  | _, _ => True

theorem Call.SparesVApps.heeds {c : Call} (h : c.SparesVApps) (e : Errand)
    (past : List (Race.Turn World)) : e.Heeds c past := by
  cases c with
  | cluster c => trivial
  | store c => cases c <;> trivial

/-! ## What a pass goes by -/

namespace Reconcile

open Attempt

variable {flaky : Prop} {P : Call → List (Race.Turn World) → Prop}

/-- A vApp that is found was there when it was looked for. -/
theorem findVApp_recalls (hP : ∀ c past, c.SparesVApps → P c past) (n name : String)
    (past : List (Race.Turn World)) :
    (findVApp n name).Always (Pass.Recalls (World.Responds flaky)) P
      (fun found past => ∀ a, found = some a → ∃ t ∈ past, t.Finds a) (fun _ => True) past := by
  refine .bind (.call (hP _ _ trivial) fun r past₁ _ => ?_)
  cases r with
  | error e => trivial
  | ok v =>
    cases v with
    | none => exact fun a ha => by cases ha
    | some v =>
      refine .call (hP _ _ trivial) fun r past₂ hr => ?_
      cases hr with
      | @answered _ w _ _ _ hr =>
        cases hr with
        | failed => trivial
        | carried =>
          intro a ha
          refine ⟨_, List.mem_append_right _ (List.mem_singleton.2 rfl), ?_⟩
          have hnamed : w.store.vappNamed? v.id name = some a := ha
          have hfinds : Race.Turn.Finds ⟨w, .store (.getVAppByName v.id name), .ok (some a)⟩ a :=
            .byName (List.mem_of_find?_eq_some hnamed)
          rw [← hnamed] at hfinds
          exact hfinds

end Reconcile

namespace Errand

open Attempt Reconcile

/-- What a pass has gone by at each of its calls, whatever others do meanwhile. -/
theorem attempt_heeds (flaky : Prop) (e : Errand) :
    e.attempt.Always (Pass.Recalls (World.Responds flaky)) e.Heeds (fun _ _ => True)
      (fun _ => True) [] := by
  have hspares : ∀ (c : Call) (past : List (Race.Turn World)), c.SparesVApps → e.Heeds c past :=
    fun c past h => h.heeds e past
  have hquiet : e.IsQuiet →
      e.attempt.Always (Pass.Recalls (World.Responds flaky)) e.Heeds (fun _ _ => True)
        (fun _ => True) [] :=
    fun h => h.makes.admits (fun c past hc => hspares c past hc.sparesVApps) []
  cases e with
  | machine settings vm => exact (virtualMachine_makes settings vm).admits hspares []
  | machineDeleted | sweep | owner => exact hquiet trivial
  | vapp ti =>
    refine .bind ((findVApp_recalls hspares ti.ns ti.name []).mono fun found past hfound => ?_)
    cases found with
    | none => trivial
    | some a =>
      obtain ⟨t, ht, hfinds⟩ := hfound a rfl
      refine .bind (.call (hspares _ _ trivial) fun r past' hr => ?_)
      cases r with
      | error e => trivial
      | ok vms =>
        have hpast : t ∈ past' := by
          cases hr with
          | answered _ _ => exact List.mem_append_left _ ht
        show (moveVApp ti a _).Always _ _ _ _ past'
        unfold moveVApp
        split
        · trivial
        · rename_i hne
          split
          · trivial
          · rename_i hmay
            refine .bind ((persistVAppStatus_always ?_).mono fun _ _ _ => trivial)
            refine ⟨trivial, ⟨fun hdel => ?_, fun hend => hend.elim⟩, t, hpast, a, hfinds, rfl,
              Ne.symm hne, by simpa using hmay⟩
            exact absurd hdel (VAppSignals.status_ne_deleted _)
  | templateInstanceDeleted n name =>
    refine .bind ((findVApp_recalls hspares n name []).mono fun found past hfound => ?_)
    cases found with
    | none => trivial
    | some a =>
      obtain ⟨t, ht, hfinds⟩ := hfound a rfl
      dsimp only
      split
      · trivial
      · rename_i hne
        refine persistVAppStatus_always ⟨trivial, ⟨fun _ => trivial, fun _ => rfl⟩, t, ht, a,
          hfinds, rfl, hne, ?_⟩
        cases a.status <;> rfl

end Errand

/-! ## Passes side by side -/

namespace Race

variable {flaky : Prop} {errands : List Errand} {w : World} {race : Race World (Result Unit)}

/-- Passes that start together. -/
def ofErrands (errands : List Errand) (w : World) : Race World (Result Unit) :=
  ⟨errands.map fun e => e.attempt.run, w⟩

/-- **A write follows the lifecycle unless the status has changed.** Passes of all controllers go on
by one call at a time, in any order, and calls may fail. Each write of a vApp's status is one of a
pass for its template instance, which found the vApp with a status that the lifecycle leads on from;
it is the end where the instance is gone, and nowhere else. From the status that the row has at the
moment of the write the lifecycle leads to the new one exactly if that is the end, or if the row
still has the status that the pass found, or already the new one. -/
theorem write_follows_lifecycle_iff {ts₁ ts₂ : List (Nat × Turn World)} {i : Nat} {t : Turn World}
    (h : Runs (World.Responds flaky) (ofErrands errands w) (ts₁ ++ (i, t) :: ts₂) race)
    {id : Uuid} {status : VAppStatus} (hc : t.call = .store (.updateVAppStatus id status)) :
    ∃ e found, errands[i]? = some e ∧ e.IsAboutVApp ∧ (status = .deleted ↔ e.IsAboutEnd) ∧
      (∃ look ∈ turnsOf i ts₁, look.Finds found) ∧ found.id = id ∧ found.status.Moves status ∧
      ∀ a ∈ t.state.store.vapps, a.id = id →
        (a.status.mayBecome status = true ↔
          e.IsAboutEnd ∨ a.status = found.status ∨ a.status = status) := by
  have hpasses : ∀ (j : Nat) (p : Pass (Result Unit)), (ofErrands errands w).passes[j]? = some p →
      p.Always (Pass.Recalls (World.Responds flaky))
        (fun c past => ∃ e, errands[j]? = some e ∧ e.Heeds c past) (fun _ _ => True) [] := by
    intro j p hj
    rw [ofErrands, List.getElem?_map] at hj
    obtain ⟨e, he, rfl⟩ := Option.map_eq_some_iff.1 hj
    exact Pass.Always.mono (e.attempt_heeds flaky) (fun _ _ hheeds => ⟨e, he, hheeds⟩)
      fun _ _ _ => trivial
  obtain ⟨e, he, hheeds⟩ := (h.always hpasses).2 ts₁ i t ts₂ rfl
  rw [hc] at hheeds
  obtain ⟨habout, hend, look, hlook, found, hfinds, hid, hmoves⟩ := hheeds
  refine ⟨e, found, he, habout, hend, ⟨look, hlook, hfinds⟩, hid, hmoves, fun a _ _ => ?_⟩
  rw [hmoves.mayBecome_iff, hend]

/-- A template instance is ready, and it goes. -/
def readyAndGone : Race World (Result Unit) :=
  ofErrands [.vapp Episode.readyWeb, .templateInstanceDeleted "tenant-a" "web"] Episode.launched

/-- The pass for it finds its vApp being instantiated, and that it is due to be deployed. Before it
writes that, the vApp is deleted. -/
def overtaken : Race World (Result Unit) := [0, 0, 0, 1, 1, 1, 1, 0].foldl goOn readyAndGone

/-- What the pass writes then. -/
def lateWrite : Turn World :=
  ⟨overtaken.state, .store (.updateVAppStatus (.ofNat 10) .deployed), .ok true⟩

theorem runs_overtaken :
    ∃ ts, Runs (World.Responds False) readyAndGone (ts ++ [(0, lateWrite)]) (overtaken.goOn 0) := by
  have h : Runs (World.Responds False) readyAndGone _ overtaken :=
    runs_turns readyAndGone [0, 0, 0, 1, 1, 1, 1, 0]
  exact ⟨_, h.goOn 0⟩

theorem overtaken_write_follows_lifecycle_iff : ∃ found : VApp, found.id = .ofNat 10 ∧
    found.status.Moves .deployed ∧ ∀ a ∈ overtaken.state.store.vapps, a.id = .ofNat 10 →
      (a.status.mayBecome .deployed = true ↔
        a.status = found.status ∨ a.status = .deployed) := by
  obtain ⟨ts, h⟩ := runs_overtaken
  obtain ⟨e, found, -, -, hend, -, hid, hmoves, hiff⟩ := write_follows_lifecycle_iff h rfl
  refine ⟨found, hid, hmoves, fun a ha haid => (hiff a ha haid).trans ?_⟩
  exact or_iff_right fun he => by cases hend.2 he

/-- The vApp is deleted at the moment of the write, and the write deploys it. -/
theorem deleted_vapp_is_deployed :
    (∃ ts, Runs (World.Responds False) readyAndGone (ts ++ [(0, lateWrite)]) (overtaken.goOn 0)) ∧
    lateWrite.call = .store (.updateVAppStatus (.ofNat 10) .deployed) ∧
    (∃ a ∈ lateWrite.state.store.vapps, a.id = .ofNat 10 ∧ a.status = .deleted ∧
      a.status.mayBecome .deployed = false) ∧
    ∃ a ∈ (overtaken.goOn 0).state.store.vapps, a.id = .ofNat 10 ∧ a.status = .deployed :=
  ⟨runs_overtaken, rfl, by decide, by decide⟩

end Race

end TenantCloud
