import Mathlib.Data.List.Destutter
import TenantCloud.Proofs.Reconcile.Abandoned
import TenantCloud.Proofs.Reconcile.Discovery
import TenantCloud.Proofs.Reconcile.Errands

/-!
# Histories of vApps

A run goes from pass to pass, with calls that fail and passes that break off, and in between
everything may change but the vApps (`Episode.Next`). What each step does to the table of vApps
(`VAppTable.Evolves`) is told by the calls that passes may make, and so the statuses that a vApp
goes through are a path of the lifecycle (`Episode.statuses_follow_lifecycle`). A pass for a
template instance that meets no failure leaves each vApp where the rows before it say
(`Reconcile.vapp_settles`).
-/

set_option autoImplicit false

namespace TenantCloud

namespace Table

variable {ρ : Type} [Row ρ] {t : Table ρ} {id : Uuid} {a : ρ}

theorem get?_eq_some (h : get? t id = some a) : a ∈ t ∧ Row.rowId a = id :=
  ⟨List.mem_of_find?_eq_some h, beq_iff_eq.1 (List.find?_some (p := (Row.rowId · == id)) h)⟩

theorem get?_map {f : ρ → ρ} (hf : ∀ r, Row.rowId (f r) = Row.rowId r) (id : Uuid) :
    get? (t.map f) id = (get? t id).map f := by
  unfold get?
  rw [List.find?_map]
  exact congrArg (fun p => (t.find? p).map f) (funext fun r => congrArg (· == id) (hf r))

theorem get?_amend {f : ρ → ρ} (hf : ∀ r, Row.rowId (f r) = Row.rowId r) (id' : Uuid) :
    get? (amend t id' f) id = (get? t id).map fun r => if Row.rowId r == id' then f r else r := by
  refine get?_map (fun r => ?_) id
  split
  · exact hf r
  · rfl

theorem get?_concat (row : ρ) : get? (t ++ [row]) id =
    (get? t id).or (if Row.rowId row = id then some row else none) := by
  unfold get?
  rw [List.find?_append]
  by_cases h : Row.rowId row = id <;> simp [h]

end Table

namespace VAppStatus

/-- A change that the lifecycle permits. -/
def Moves (s t : VAppStatus) : Prop := s ≠ t ∧ s.mayBecome t = true

instance (s t : VAppStatus) : Decidable (s.Moves t) := inferInstanceAs (Decidable (_ ∧ _))

theorem Moves.cases {s t : VAppStatus} (h : s.Moves t) : s ≠ .deleted ∧
    (s = .failed → t = .deleted) ∧ (t = .failed → s = .instantiating) ∧
    (t = .deleting → s = .deployed) := by
  revert h
  cases s <;> cases t <;> decide

end VAppStatus

/-- What becomes of the table of vApps in a step, during a pass or between passes: a row stays, with
another status where the pass may give it one, and a new one is being instantiated. -/
structure VAppTable.Evolves (e? : Option Errand) (t t' : Table VApp) : Prop where
  kept : ∀ id a, Table.get? t id = some a → ∃ a', Table.get? t' id = some a' ∧
    (a' = a ∨ ∃ e status now, e? = some e ∧ e.IsAboutVApp ∧
      a' = { a with status, updatedAt := now } ∧ a.status.mayBecome status = true ∧
      (status = .deleted → e.IsAboutEnd))
  made : ∀ id a, Table.get? t id = none → Table.get? t' id = some a → a.status = .instantiating

theorem VAppTable.Evolves.refl (e? : Option Errand) (t : Table VApp) : Evolves e? t t :=
  ⟨fun _ a ha => ⟨a, ha, .inl rfl⟩, fun _ _ hnone ha => by rw [hnone] at ha; cases ha⟩

namespace World

variable {w : World} {e : Errand}

/-- A creation takes the next identity, or fails for a row that is there. -/
theorem perform_createVApp_cases (h : w.DrawsNew) (new : NewVApp) :
    (perform (.store (.createVApp new)) w).2 = w ∨
      (perform (.store (.createVApp new)) w).2 =
        w.addVApp (Store.vappRow w.ids.nextVApp w.now new) := by
  cases hclash : w.store.vapps.any (Store.clashesVApp new) with
  | true => exact .inl (congrArg Prod.snd (perform_createVApp_of_clash hclash))
  | false => exact .inr (congrArg Prod.snd (perform_createVApp_of_free h hclash))

theorem evolves_addVApp (e? : Option Errand) {new : NewVApp} (hnew : new.status = .instantiating) :
    VAppTable.Evolves e? w.store.vapps
      (w.addVApp (Store.vappRow w.ids.nextVApp w.now new)).store.vapps := by
  refine ⟨fun id a ha => ⟨a, ?_, .inl rfl⟩, fun id a hnone ha => ?_⟩
  · exact (Table.get?_concat _).trans (by rw [ha, Option.some_or])
  · have hget := (Table.get?_concat _).symm.trans ha
    rw [hnone, Option.none_or] at hget
    split at hget
    · cases hget
      exact hnew
    · cases hget

theorem evolves_updateVAppStatus {id : Uuid} {status : VAppStatus}
    (hc : e.Admits (.store (.updateVAppStatus id status)) w) (now : Timestamp) :
    VAppTable.Evolves (some e) w.store.vapps (w.store.updateVAppStatus now id status).2.vapps := by
  obtain ⟨hmoves, hend, hallowed⟩ := hc
  have hget : ∀ id', Table.get? (w.store.updateVAppStatus now id status).2.vapps id' =
      (Table.get? w.store.vapps id').map fun a =>
        if Row.rowId a == id then { a with status, updatedAt := now } else a := by
    intro id'
    refine Table.get?_amend (f := fun a : VApp => { a with status, updatedAt := now }) ?_ id
    exact fun _ => rfl
  refine ⟨fun id' a ha => ?_, fun id' a hnone ha => ?_⟩
  · rw [hget, ha]
    refine ⟨_, rfl, ?_⟩
    dsimp only
    split
    · rename_i hid
      have hmay := hallowed a (Table.get?_eq_some ha).1 (beq_iff_eq.1 hid)
      exact .inr ⟨e, status, now, rfl, hmoves, rfl, hmay, hend⟩
    · exact .inl rfl
  · rw [hget, hnone] at ha
    cases ha

/-- What a call that a pass may make does to the vApps. -/
theorem evolves_perform (hnew : w.DrawsNew) (hid : Table.Distinct w.store.vapps VApp.id) {c : Call}
    (hc : e.Admits c w) : VAppTable.Evolves (some e) w.store.vapps (perform c w).2.store.vapps ∧
      Table.Distinct (perform c w).2.store.vapps VApp.id := by
  have hsame : ∀ w' : World, w'.store.vapps = w.store.vapps →
      VAppTable.Evolves (some e) w.store.vapps w'.store.vapps ∧
        Table.Distinct w'.store.vapps VApp.id := by
    intro w' hvapps
    rw [hvapps]
    exact ⟨.refl _ _, hid⟩
  cases c with
  | cluster c => exact hsame _ (congrArg Store.vapps (store_performCluster c w))
  | store c =>
    cases c with
    | createVApp new =>
      rcases perform_createVApp_cases hnew new with hmade | hmade
      · rw [hmade]
        exact hsame w rfl
      · rw [hmade]
        exact ⟨evolves_addVApp (some e) hc, hid.concat fun a ha => hnew a ha⟩
    | updateVAppStatus id status =>
      exact ⟨evolves_updateVAppStatus hc w.now, hid.amend fun _ => rfl⟩
    | createVm new =>
      refine hsame _ ?_
      show (performStore w (.createVm new)).2.store.vapps = _
      simp only [performStore, Store.createVm]
      split
      · rename_i hmade
        split at hmade
        · cases hmade
        · cases hmade
          rfl
      · rfl
    | _ => exact hsame _ rfl

end World

/-! ## Passes without faults -/

namespace Store

/-- The status that is due for a vApp. -/
def due (s : Store) (ti : TemplateInstance) (id : Uuid) : VAppStatus :=
  (ti.signals ((s.vmsIn id).map Vm.status)).status

/-- Where a pass for a template instance that meets no failure leaves a vApp. -/
def settled (s : Store) (ti : TemplateInstance) (a : VApp) : VAppStatus :=
  if s.vappAt? ti.ns ti.name = some a ∧ a.status.mayBecome (s.due ti a.id) = true then s.due ti a.id
  else a.status

end Store

namespace Reconcile

variable {w : World}

/-- Nothing is written, or the status that is due where it may follow. -/
theorem moveVApp_writes (hw : w.faults = []) (ti : TemplateInstance) (a : VApp) (due : VAppStatus) :
    ∃ s t, w.Does (moveVApp ti a due) () (w.setStore s) t ∧
      (s = w.store ∧ (due = a.status ∨ a.status.mayBecome due = false) ∨
        s = (w.store.updateVAppStatus w.now a.id due).2 ∧ a.status.mayBecome due = true) := by
  unfold moveVApp
  by_cases heq : due = a.status
  · exact ⟨w.store, _, .ite_pos heq (.measure w _), .inl ⟨rfl, .inl heq⟩⟩
  · cases hmay : a.status.mayBecome due with
    | false => exact ⟨w.store, _, .ite_neg heq (.ite_pos rfl (.measure w _)), .inl ⟨rfl, .inr rfl⟩⟩
    | true =>
      obtain ⟨t, hpersist⟩ := persistVAppStatus_does hw a due
      exact ⟨_, _, .ite_neg heq (.ite_neg Bool.false_ne_true (hpersist.bind (.publish _ _ _))),
        .inr ⟨rfl, rfl⟩⟩

/-- A pass that meets no failure leaves each vApp where the rows before it say. -/
theorem vapp_settles (hw : w.faults = []) (hid : Table.Distinct w.store.vapps VApp.id)
    (ti : TemplateInstance) :
    ∃ s t, w.Does (vapp ti) () (w.setStore s) t ∧
      ∀ b ∈ w.store.vapps, ∃ b', Table.get? s.vapps b.id = some b' ∧
        b'.status = w.store.settled ti b := by
  have hget : ∀ b ∈ w.store.vapps, Table.get? w.store.vapps b.id = some b := fun b hb =>
    hid.find? hb fun _ => beq_iff_eq
  obtain ⟨t, hfind⟩ := findVApp_does hw ti.ns ti.name
  cases hfound : w.store.vappAt? ti.ns ti.name with
  | none =>
    rw [hfound] at hfind
    refine ⟨w.store, _, hfind.bind (.measure w _), fun b hb => ⟨b, hget b hb, ?_⟩⟩
    rw [Store.settled, hfound]
    exact (if_neg nofun).symm
  | some a =>
    rw [hfound] at hfind
    obtain ⟨s, t', hmove, hstore⟩ := moveVApp_writes hw ti a (w.store.due ti a.id)
    refine ⟨s, _, hfind.bind (.bind (.look hw rfl rfl) hmove), fun b hb => ?_⟩
    rcases hstore with ⟨rfl, hstays⟩ | ⟨rfl, hmay⟩
    · refine ⟨b, hget b hb, ?_⟩
      rw [Store.settled, hfound]
      split
      · -- The vApp itself, at the status that is due.
        rename_i hfits
        obtain rfl := Option.some.inj hfits.1
        rcases hstays with hsame | hnot
        · exact hsame.symm
        · rw [hnot] at hfits
          exact absurd hfits.2 Bool.false_ne_true
      · rfl
    · have hrow : Table.get? (w.store.updateVAppStatus w.now a.id (w.store.due ti a.id)).2.vapps
          b.id = some (if b.id == a.id then
            { b with status := w.store.due ti a.id, updatedAt := w.now } else b) := by
        let move (c : VApp) : VApp :=
          { c with status := w.store.due ti a.id, updatedAt := w.now }
        refine (Table.get?_amend (f := move) (fun _ => rfl) a.id).trans ?_
        rw [hget b hb]
        rfl
      refine ⟨_, hrow, ?_⟩
      rw [Store.settled, hfound]
      by_cases hsame : b = a
      · subst hsame
        rw [if_pos (beq_self_eq_true b.id), if_pos ⟨rfl, hmay⟩]
      · obtain ⟨-, -, hmem, -⟩ := Store.vappAt?_eq_some hfound
        have hne : b.id ≠ a.id := fun he => hsame (hid b hb a hmem he)
        rw [if_neg (mt beq_iff_eq.1 hne), if_neg fun h => hsame (Option.some.inj h.1).symm]

end Reconcile

/-! ## Moments of a run -/

/-- A moment of a run: between passes, or in a pass, with what is left of it. -/
inductive Episode
  | idle (w : World)
  | busy (e : Errand) (rest : Pass (Result Unit)) (w : World)

namespace Episode

/-- Where the run has come to. -/
def world : Episode → World
  | idle w | busy _ _ w => w

/-- The pass that is under way. -/
def errand? : Episode → Option Errand
  | idle _ => none
  | busy e _ _ => some e

/-- The row of a vApp. -/
def row? (m : Episode) (id : Uuid) : Option VApp := Table.get? m.world.store.vapps id

/-- Between passes everything may change but the vApps. Calls may fail, and a pass may break off
anywhere. -/
inductive Next : Episode → Episode → Prop
  | edit {w w' : World} : w'.store.vapps = w.store.vapps → Next (idle w) (idle w')
  | start (e : Errand) {w : World} : Next (idle w) (busy e e.attempt.run w)
  | go {e : Errand} {rest rest' : Pass (Result Unit)} {w w' : World} :
      Pass.Step World.Handles (rest, w) (rest', w') → Next (busy e rest w) (busy e rest' w')
  | stop {e : Errand} {rest : Pass (Result Unit)} {w : World} : Next (busy e rest w) (idle w)

/-- Identities are distinct, and what is left of a pass makes calls only that the pass may make. -/
structure Sound (m : Episode) : Prop where
  distinct : Table.Distinct m.world.store.vapps VApp.id
  admits : ∀ e rest w, m = busy e rest w →
    rest.Always World.Handles e.Admits (fun _ _ => True) w

variable {m m' : Episode}

theorem Sound.next (h : m.Sound) (hn : Next m m') : m'.Sound ∧
    VAppTable.Evolves m.errand? m.world.store.vapps m'.world.store.vapps := by
  obtain ⟨hid, hadmits⟩ := h
  cases hn with
  | edit hvapps =>
    refine ⟨⟨?_, fun _ _ _ h => by cases h⟩, ?_⟩
    · unfold world
      rw [hvapps]
      exact hid
    · unfold world
      rw [hvapps]
      exact .refl _ _
  | start e =>
    refine ⟨⟨hid, fun _ _ _ h => ?_⟩, .refl _ _⟩
    cases h
    refine Pass.Always.mono (e.attempt_admits hid) (fun _ _ => id) fun _ _ _ => trivial
  | stop => exact ⟨⟨hid, fun _ _ _ h => by cases h⟩, .refl _ _⟩
  | @go e rest rest' w w' hstep =>
    have hnow := hadmits e rest w rfl
    have hrest : rest'.Always World.Handles e.Admits (fun _ _ => True) w' := hnow.step hstep
    have hchange : VAppTable.Evolves (some e) w.store.vapps w'.store.vapps ∧
        Table.Distinct w'.store.vapps VApp.id := by
      cases hstep with
      | answer hr =>
        cases hr with
        | carried _ _ ids now hnew => exact World.evolves_perform hnew hid (hnow.1.congr rfl)
        | failed => exact ⟨.refl _ _, hid⟩
      | tell => exact ⟨.refl _ _, hid⟩
      | clock t => exact ⟨.refl _ _, hid⟩
    refine ⟨⟨hchange.2, fun _ _ _ h => ?_⟩, hchange.1⟩
    cases h
    exact hrest

/-! ## Runs -/

section

variable {α : Type} [DecidableEq α] {R : α → α → Prop}

theorem head?_destutter' (l : List α) (a : α) : (l.destutter' (· ≠ ·) a).head? = some a := by
  induction l with
  | nil => rfl
  | cons b l ih =>
    rw [List.destutter'_cons]
    split
    · rfl
    · exact ih

theorem isChain_destutter' {l : List α} {a : α} (h : (a :: l).IsChain fun x y => y = x ∨ R x y) :
    (l.destutter' (· ≠ ·) a).IsChain fun x y => x ≠ y ∧ R x y := by
  induction l generalizing a with
  | nil => exact .singleton a
  | cons b l ih =>
    obtain ⟨hab, hl⟩ := List.isChain_cons_cons.1 h
    by_cases heq : a = b
    · subst heq
      rw [List.destutter'_cons_neg _ (by simp)]
      exact ih hl
    · have hne : a ≠ b ∧ R a b := ⟨heq, hab.resolve_left (Ne.symm heq)⟩
      rw [List.destutter'_cons_pos _ heq]
      refine List.IsChain.cons (ih hl) fun y hy => ?_
      rw [head?_destutter'] at hy
      cases hy
      exact hne

/-- What leads from one to the next, or stays, leads from one to the next where nothing stays. -/
theorem isChain_destutter {l : List α} (h : l.IsChain fun x y => y = x ∨ R x y) :
    (l.destutter (· ≠ ·)).IsChain fun x y => x ≠ y ∧ R x y := by
  cases l with
  | nil => exact .nil
  | cons a l => exact isChain_destutter' h

end

/-- The statuses that a vApp goes through. -/
def history (run : List Episode) (id : Uuid) : List VAppStatus :=
  (run.filterMap fun m => (m.row? id).map VApp.status).destutter (· ≠ ·)

variable {run : List Episode}

/-- What each step keeps holds at each moment of a run. -/
theorem forall_mem_of_isChain {N : Episode → Episode → Prop} {I : Episode → Prop} {m₀ : Episode}
    (h : run.IsChain N) (hhead : run.head? = some m₀) (hstart : I m₀)
    (hstep : ∀ m m', I m → N m m' → I m') : ∀ m ∈ run, I m := by
  cases run with
  | nil => cases hhead
  | cons m rest =>
    cases hhead
    exact h.induction I _ (fun m m' hn hm => hstep m m' hm hn) fun _ => hstart

/-- Each moment of a run is sound. -/
theorem sound_of_mem (h : run.IsChain Next) {w : World} (hhead : run.head? = some (idle w))
    (hw : Table.Distinct w.store.vapps VApp.id) : ∀ m ∈ run, m.Sound :=
  forall_mem_of_isChain h hhead ⟨hw, fun _ _ _ h => by cases h⟩ fun _ _ hm hn => (hm.next hn).1

theorem isChain_statuses (h : run.IsChain Next) (hs : ∀ m ∈ run, m.Sound) (id : Uuid) :
    (run.filterMap fun m => (m.row? id).map VApp.status).IsChain
      fun s t => t = s ∨ s.mayBecome t = true := by
  induction run with
  | nil => exact .nil
  | cons m run ih =>
    have hrest := ih h.tail fun m' hm' => hs m' (List.mem_cons_of_mem _ hm')
    cases ha : m.row? id with
    | none =>
      rw [List.filterMap_cons_none (by rw [ha]; rfl)]
      exact hrest
    | some a =>
      rw [List.filterMap_cons_some (by rw [ha]; rfl)]
      cases run with
      | nil => exact .singleton _
      | cons m' run =>
        -- The row is there in the next moment, with a status that may follow.
        have hn := (List.isChain_cons_cons.1 h).1
        obtain ⟨a', ha', hor⟩ := ((hs m List.mem_cons_self).next hn).2.kept id a ha
        have hrow : m'.row? id = some a' := ha'
        rw [List.filterMap_cons_some (by rw [hrow]; rfl)] at hrest ⊢
        refine List.isChain_cons_cons.2 ⟨?_, hrest⟩
        rcases hor with rfl | ⟨e, status, now, -, -, rfl, hmay, -⟩
        · exact .inl rfl
        · exact .inr hmay

/-- A pass for a template instance whose vApp is there brings it to the status that is due, where
the lifecycle permits that. -/
theorem vapp_does {w : World} {a : VApp} {ti : TemplateInstance} (hw : w.faults = [])
    (hid : Table.Distinct w.store.vapps VApp.id) (ha : w.store.vappAt? ti.ns ti.name = some a) :
    ∃ w' t a', w.Does (Reconcile.vapp ti) () w' t ∧ Table.get? w'.store.vapps a.id = some a' ∧
      a'.status =
        let due := (ti.signals ((w.store.vmsIn a.id).map Vm.status)).status
        if a.status.mayBecome due then due else a.status := by
  obtain ⟨s, t, hdoes, hsettles⟩ := Reconcile.vapp_settles hw hid ti
  obtain ⟨-, -, hmem, -⟩ := Store.vappAt?_eq_some ha
  obtain ⟨a', ha', hstatus⟩ := hsettles a hmem
  refine ⟨_, t, a', hdoes, ha', hstatus.trans ?_⟩
  simp [Store.settled, Store.due, ha]

/-- **The statuses of a vApp follow its lifecycle.** In a run of passes of all controllers, one
after the other, with calls that fail and passes that break off, the statuses that a vApp goes
through are a path of the lifecycle; a new vApp is being instantiated; no row goes, and one changes
only in a pass for its template instance, to a status that is not the end unless the instance is
gone. Where a pass for an instance whose vApp is there meets no failure, the vApp ends at the status
that is due, if the lifecycle permits it, and at its old one otherwise. -/
theorem statuses_follow_lifecycle {w : World} (hw : Table.Distinct w.store.vapps VApp.id)
    {run : List Episode} (h : run.IsChain Next) (hhead : run.head? = some (idle w)) :
    (∀ id, (history run id).IsChain VAppStatus.Moves) ∧
    (∀ id s t, [s, t] <:+: history run id → s ≠ .deleted ∧ (s = .failed → t = .deleted) ∧
      (t = .failed → s = .instantiating) ∧ (t = .deleting → s = .deployed)) ∧
    (∀ m m' id, [m, m'] <:+: run →
      (∀ a, m.row? id = none → m'.row? id = some a → a.status = .instantiating) ∧
      ∀ a, m.row? id = some a → ∃ a', m'.row? id = some a' ∧ (a' ≠ a → ∃ e,
        m.errand? = some e ∧ e.IsAboutVApp ∧ (a'.status = .deleted → e.IsAboutEnd))) ∧
    ∀ w' ti a, idle w' ∈ run → w'.store.vappAt? ti.ns ti.name = some a →
      ∃ w'' t a', w'.calm.Does (Reconcile.vapp ti) () w'' t ∧
        Table.get? w''.store.vapps a.id = some a' ∧ a'.status =
          let due := (ti.signals ((w'.store.vmsIn a.id).map Vm.status)).status
          if a.status.mayBecome due then due else a.status := by
  have hsound := sound_of_mem h hhead hw
  have hpath : ∀ id, (history run id).IsChain VAppStatus.Moves := fun id =>
    isChain_destutter (isChain_statuses h hsound id)
  refine ⟨hpath, fun id s t hst => ?_, fun m m' id hm => ?_, fun w' ti a hmem ha => ?_⟩
  · have hmoves := List.IsChain.infix (hpath id) hst
    exact (List.isChain_pair.1 hmoves).cases
  · have hpair := List.IsChain.infix h hm
    have hn : Next m m' := List.isChain_pair.1 hpair
    have hevolves := ((hsound m (hm.subset List.mem_cons_self)).next hn).2
    refine ⟨fun a hnone ha => hevolves.made id a hnone ha, fun a ha => ?_⟩
    obtain ⟨a', ha', hor⟩ := hevolves.kept id a ha
    refine ⟨a', ha', fun hne => ?_⟩
    obtain ⟨e, status, now, he, habout, rfl, -, hend⟩ := hor.resolve_left hne
    exact ⟨e, he, habout, hend⟩
  · exact vapp_does rfl (hsound _ hmem).distinct ha

/-! ## A run -/

/-- What is left of a pass, and the world, before and after each of its calls. -/
def walk {α : Type} : Pass α → World → List (Pass α × World)
  | .done a, w => [(.done a, w)]
  | .ask c next, w => (.ask c next, w) :: walk (next (World.perform c w).1) (World.perform c w).2
  | .tell s next, w => (.tell s next, w) :: walk next w
  | .clock next, w => (.clock next, w) :: walk (next w.now) w

/-- The moments of a pass that meets no failure. -/
def during (e : Errand) (w : World) : List Episode :=
  idle w :: (walk e.attempt.run w).map fun x => busy e x.1 x.2

/-- What the pass leaves. -/
def after (e : Errand) (w : World) : World := ((walk e.attempt.run w).getLast?.map Prod.snd).getD w

theorem head?_walk {α : Type} (p : Pass α) (w : World) : (walk p w).head? = some (p, w) := by
  cases p <;> rfl

/-- Passes are part of a run in a relation, one call after the other, where the store and the
cluster answer as they should in the worlds that `D` is about. -/
structure Passes (D : World → Prop) (R : Responses World) (N : Episode → Episode → Prop) :
    Prop where
  answers : ∀ c w, D w → R c w (World.perform c w).1 (World.perform c w).2
  start : ∀ e w, N (idle w) (busy e e.attempt.run w)
  go : ∀ e x y, Pass.Step R x y → N (busy e x.1 x.2) (busy e y.1 y.2)
  stop : ∀ e rest w, N (busy e rest w) (idle w)

theorem Next.passes : Passes World.DrawsNew World.Handles Next where
  answers c w hw := .carried c w w.ids w.now hw
  start e _ := .start e
  go _ _ _ hs := .go hs
  stop _ _ _ := .stop

namespace Passes

variable {D : World → Prop} {R : Responses World} {N : Episode → Episode → Prop}

theorem isChain_walk {α : Type} (hN : Passes D R N) (p : Pass α) (w : World)
    (hw : ∀ v ∈ (walk p w).map Prod.snd, D v) : (walk p w).IsChain (Pass.Step R) := by
  induction p generalizing w with
  | done a => exact .singleton _
  | ask c next ih =>
    simp only [walk, List.map_cons, List.mem_cons, forall_eq_or_imp] at hw
    refine List.IsChain.cons (ih _ _ hw.2) fun x hx => ?_
    rw [head?_walk] at hx
    cases hx
    exact .answer (hN.answers c w hw.1)
  | tell s next ih =>
    simp only [walk, List.map_cons, List.mem_cons, forall_eq_or_imp] at hw
    refine List.IsChain.cons (ih _ hw.2) fun x hx => ?_
    rw [head?_walk] at hx
    cases hx
    exact .tell
  | clock next ih =>
    simp only [walk, List.map_cons, List.mem_cons, forall_eq_or_imp] at hw
    refine List.IsChain.cons (ih _ _ hw.2) fun x hx => ?_
    rw [head?_walk] at hx
    cases hx
    exact .clock _

theorem isChain_during (hN : Passes D R N) {e : Errand} {w : World}
    (hw : ∀ v ∈ (walk e.attempt.run w).map Prod.snd, D v) : (during e w).IsChain N := by
  refine List.IsChain.cons ?_ fun x hx => ?_
  · exact List.isChain_map_of_isChain _ (hN.go e) (hN.isChain_walk _ _ hw)
  · rw [List.head?_map, head?_walk] at hx
    cases hx
    exact hN.start e w

/-- After a pass the run goes on from what the pass leaves. -/
theorem isChain_append (hN : Passes D R N) {e : Errand} {w : World}
    (hw : ∀ v ∈ (walk e.attempt.run w).map Prod.snd, D v) {run : List Episode}
    (h : run.IsChain N) (hhead : run.head? = some (idle (after e w))) :
    (during e w ++ run).IsChain N := by
  refine (hN.isChain_during hw).append h fun x hx y hy => ?_
  rw [hhead] at hy
  cases hy
  cases hend : (walk e.attempt.run w).getLast? with
  | none =>
    have hstart := head?_walk e.attempt.run w
    rw [List.getLast?_eq_none_iff.1 hend] at hstart
    cases hstart
  | some y =>
    have hafter : after e w = y.2 := by
      unfold after
      rw [hend]
      rfl
    rw [during, List.getLast?_cons, List.getLast?_map, hend] at hx
    cases hx
    rw [hafter]
    exact hN.stop ..

end Passes

/-- A template instance that is ready. -/
def readyWeb : TemplateInstance where
  metadata := { name := some "web", ns := some "tenant-a" }
  spec := ⟨none⟩
  status := some ⟨[⟨"Ready", "True", none, none⟩]⟩

open Reconcile in
/-- The world after the pass for its machine, and after its own. -/
def launched : World := after (.machine {} (labelled .running)) undiscovered

def deployed : World := after (.vapp readyWeb) launched

/-- A machine is discovered, its template instance is seen, and goes. -/
def lifetime : List Episode :=
  during (.machine {} (Reconcile.labelled .running)) Reconcile.undiscovered ++
    (during (.vapp readyWeb) launched ++
      during (.templateInstanceDeleted "tenant-a" "web") deployed)

theorem isChain_lifetime : lifetime.IsChain Next :=
  Next.passes.isChain_append (by decide)
    (Next.passes.isChain_append (by decide) (Next.passes.isChain_during (by decide)) rfl) rfl

/-- The vApp is made, deployed and deleted. -/
theorem lifetime_follows_lifecycle :
    history lifetime (.ofNat 10) = [.instantiating, .deployed, .deleted] ∧
      (history lifetime (.ofNat 10)).IsChain VAppStatus.Moves ∧
      ∀ s t, [s, t] <:+: history lifetime (.ofNat 10) → s ≠ .deleted := by
  obtain ⟨hpath, hcases, -⟩ := statuses_follow_lifecycle (w := Reconcile.undiscovered) (by decide)
    isChain_lifetime rfl
  exact ⟨by decide, hpath _, fun s t hst => (hcases _ s t hst).1⟩

end Episode

end TenantCloud
