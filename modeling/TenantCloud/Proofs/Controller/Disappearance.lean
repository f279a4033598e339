import TenantCloud.Controller.Roster
import TenantCloud.Proofs.Controller.Following
import TenantCloud.Proofs.Reconcile.Disappearance

/-!
# VApps of template instances that vanished

The controller of vApps marks a vApp as deleted only where it carries out a request for a template
instance that it does not know. Such an instance was reported and has vanished since, or it was
never reported at all and only a machine with its name in a label was. The mark is right in the
first case and wrong in the second, and `Follower.marks_vanished_iff` says when exactly the second
one comes about. It does: `Follower.discovered_vapp_is_marked`.
-/

set_option autoImplicit false

namespace TenantCloud

/-- A follower as it stands, in a world without faults. -/
def Following.calm {α : Type} (s : Following α) : Following α :=
  { s with stage.world := s.stage.world.calm }

/-- An attempt leaves the world as its run does. -/
theorem Stage.world_attempt {α : Type} (s : Stage) (t : Nat) (name : String) (a : Attempt α) :
    (s.attempt t name a).2.world = (s.world.run a).state := by
  show (Stage.count _ t name (s.world.run a).value).world = _
  cases (s.world.run a).value <;> rfl

namespace Follower

section

variable {α : Type} (f : Follower α)

/-- The event marks a vApp as deleted. -/
def Marks (t : Nat) (e : FollowerEvent) (s : Following α) (id : Uuid) : Prop :=
  ¬ s.stage.world.store.IsMarked id ∧ (f.react t e s).state.stage.world.store.IsMarked id

/-- A request for a key is carried out and finds no object. -/
def Misses (t : Nat) (k : ObjectAddress) (s : Following α) : Prop :=
  (s.due.get? k = some t && s.listening.contains f.main && !isBroken t s) = true ∧ find? k s = none

variable (world : World) (es : List (Nat × FollowerEvent)) (k : ObjectAddress)

/-- The last report about the object says that it is gone. -/
def Vanished : Prop := ∃ r, (f.heard world es).find? (f.isAbout k) = some r ∧ r.gone = true

/-- No report was about the object, but one was about an object that is related to it. -/
def OnlyRelated : Prop := (∀ r ∈ f.heard world es, f.isAbout k r = false) ∧
  ∃ r ∈ f.heard world es, f.own? r.object = none ∧ f.related? r.object = some k

variable {f world es k}

/-- An object that a request does not find has vanished, or never was. -/
theorem vanished_or_onlyRelated {t : Nat} (h : f.Misses t k (f.after world es)) :
    f.Vanished world es k ∨ f.OnlyRelated world es k := by
  obtain ⟨hdue, hfind⟩ := h
  have hknown : (f.after world es).known.get? k = none := by
    unfold find? at hfind
    cases hk : (f.after world es).known.get? k with
    | none => rfl
    | some a =>
      rw [hk] at hfind
      cases hfind
  rw [known_after] at hknown
  cases hlast : (f.heard world es).find? (f.isAbout k) with
  | some r =>
    refine .inl ⟨r, hlast, ?_⟩
    have habout := List.find?_some hlast
    rw [hlast, Option.bind_some] at hknown
    cases hgone : r.gone with
    | true => rfl
    | false =>
      rw [hgone] at hknown
      change f.own? r.object = none at hknown
      rw [isAbout, hknown] at habout
      cases habout
  | none =>
    refine .inr ⟨fun r hr => Bool.eq_false_iff.2 (List.find?_eq_none.1 hlast r hr), ?_⟩
    simp only [Bool.and_eq_true, decide_eq_true_eq] at hdue
    have hdue : ((f.after world es).due.get? k).isSome := by
      rw [hdue.1.1]
      rfl
    obtain ⟨r, hr, habout | hrel⟩ := due_after hdue
    · exact absurd habout (List.find?_eq_none.1 hlast r hr)
    · exact ⟨r, hr, hrel⟩

theorem OnlyRelated.not_vanished (h : f.OnlyRelated world es k) : ¬ f.Vanished world es k := by
  rintro ⟨r, hr, -⟩
  have := h.1 r (List.mem_of_find?_eq_some hr)
  rw [List.find?_some hr] at this
  cases this

end

section

variable {settings : Settings} {t : Nat} {id : Uuid} {s : Following TemplateInstance}

/-- Only a request that finds no template instance marks a vApp, and it marks that of the
instance. -/
theorem misses_of_marks {e : FollowerEvent} (he : ∀ c, e ≠ .cue c)
    (h : (vappController settings).Marks t e s id) : ∃ k, e = .due k ∧
      (vappController settings).Misses t k s ∧ s.stage.world.store.Designates k.key id := by
  obtain ⟨hbefore, hafter⟩ := h
  unfold react at hafter
  cases e with
  | cue c => exact absurd rfl (he c)
  | list w n =>
    dsimp only at hafter
    split at hafter
    · exact absurd hafter hbefore
    · rw [store_list] at hafter
      exact absurd hafter hbefore
  | report r =>
    dsimp only at hafter
    split at hafter
    · exact absurd hafter hbefore
    · rw [stage_report] at hafter
      exact absurd hafter hbefore
  | due k =>
    dsimp only at hafter
    split at hafter
    · rename_i hdue
      unfold carryOut at hafter
      dsimp only at hafter
      split at hafter
      · rw [stage_pause] at hafter
        change ((s.stage.attempt t _ _).2.world.store).IsMarked id at hafter
        rw [Stage.world_attempt] at hafter
        exact absurd (Reconcile.isMarked_run_vapp hafter) hbefore
      · rename_i hfind
        refine ⟨k, rfl, ⟨hdue, hfind⟩, ?_⟩
        change ((s.stage.attempt t _ _).2.world.store).IsMarked id at hafter
        rw [Stage.world_attempt] at hafter
        exact (Reconcile.isMarked_run_templateInstanceDeleted hafter).resolve_left hbefore
    · exact absurd hafter hbefore

/-- Without faults a request that finds no template instance marks the vApp of the instance. -/
theorem marks_of_misses {k : ObjectAddress} (h : (vappController settings).Misses t k s)
    (hd : s.stage.world.store.Designates k.key id) (hid : ¬ s.stage.world.store.IsMarked id) :
    (vappController settings).Marks t (.due k) s.calm id := by
  refine ⟨hid, ?_⟩
  show (if _ then _ else _ : Reaction (Following TemplateInstance) FollowerEvent).state.stage.world
    |>.store.IsMarked id
  have hdue : (s.calm.due.get? k = some t && s.calm.listening.contains
    (vappController settings).main && !isBroken t s.calm) = true := h.1
  have hfind : find? k { s.calm with due := s.calm.due.erase k } = none := h.2
  rw [if_pos hdue]
  unfold carryOut
  dsimp only
  rw [hfind]
  show ((s.calm.stage.attempt t _ _).2.world.store).IsMarked id
  rw [Stage.world_attempt]
  exact Reconcile.isMarked_run_calm hd hid

/-- **When a vApp that is marked as deleted has vanished.** Whatever happened and whatever calls
fail, the controller of vApps marks a vApp only on a request for its template instance, one that it
does not know; either the last report about the instance says that it is gone, or no report was
about it and only a machine with its name in a label was reported. Without faults a request marks
vanished vApps alone exactly where the second case does not come about. -/
theorem marks_vanished_iff (settings : Settings) (world : World)
    (es : List (Nat × FollowerEvent)) (t : Nat) (id : Uuid) :
    (∀ e, (∀ c, e ≠ .cue c) →
      (vappController settings).Marks t e ((vappController settings).after world es) id →
      ∃ k, e = .due k ∧
        ((vappController settings).after world es).stage.world.store.Designates k.key id ∧
        ((vappController settings).Vanished world es k ∨
          (vappController settings).OnlyRelated world es k)) ∧
    ∀ k, ((vappController settings).Marks t (.due k)
        ((vappController settings).after world es).calm id →
      (vappController settings).Vanished world es k) ↔
      ¬ ((vappController settings).OnlyRelated world es k ∧
        (vappController settings).Misses t k ((vappController settings).after world es) ∧
        ((vappController settings).after world es).stage.world.store.Designates k.key id ∧
        ¬ ((vappController settings).after world es).stage.world.store.IsMarked id) := by
  refine ⟨fun e he h => ?_, fun k => ⟨fun h => ?_, fun h hm => ?_⟩⟩
  · obtain ⟨k, rfl, hmiss, hd⟩ := misses_of_marks he h
    exact ⟨k, rfl, hd, vanished_or_onlyRelated hmiss⟩
  · rintro ⟨hrel, hmiss, hd, hid⟩
    exact hrel.not_vanished (h (marks_of_misses hmiss hd hid))
  · obtain ⟨k', hk, hmiss, hd⟩ := misses_of_marks (fun _ h => by cases h) hm
    cases hk
    rcases vanished_or_onlyRelated hmiss with hvan | hrel
    · exact hvan
    · exact absurd ⟨hrel, hmiss, hd, hm.1⟩ h

end

/-! ## A vApp that never had a template instance -/

/-- A machine with the name of a vApp in a label. -/
def labelledMachine : VirtualMachine where
  metadata := {
    name := some "web-0", ns := some "tenant-a"
    labels := some (.single Vocabulary.vappNameLabel "web") }
  spec := ⟨none, none, none⟩
  status := none

/-- A tenant with that machine and no template instance, after the pass for the machine. -/
def discovered : World :=
  let found : World := {
    store.vdcs := [World.boundVdc 1 "gold" "tenant-a" none]
    cluster.vms := .single ⟨"tenant-a", "web-0"⟩ labelledMachine
    ids := ⟨.ofNat, .ofNat, 0, 0⟩
    now := ⟨0, 0⟩ }
  (found.run (Reconcile.virtualMachine {} labelledMachine)).state

/-- The pass for the machine creates a vApp, and the controller of vApps marks it at once, though
there is no template instance and nobody else acts. -/
theorem discovered_vapp_is_marked :
    discovered.cluster.templateInstances = ∅ ∧
    discovered.store.vapps.map (fun a => (a.name, a.status)) = [("web", .instantiating)] ∧
    (((vappController {}).run discovered [] 0).stage.world.store.vapps.map
      fun a => (a.name, a.status)) = [("web", .deleted)] := by
  decide

end Follower

end TenantCloud
