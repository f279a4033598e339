import TenantCloud.Proofs.Reconcile.Disappearance
import TenantCloud.Proofs.Reconcile.Histories
import TenantCloud.Proofs.VApp.Lifecycle

/-!
# The machines of a vApp, in any order

The store lists the machines of a vApp in no particular order. `Handler.relisting` lists them as one
likes, and is the same otherwise. A pass that does not ask for machines cannot tell the difference
(`Pass.run_congr`), and the pass for a vApp looks at no more than which statuses are there, so that
it does the same (`Reconcile.run_vapp_relisting`).
-/

set_option autoImplicit false

namespace TenantCloud

/-- The machines of a vApp are asked for. -/
def Call.ListsMembers (c : Call) : Prop := ∃ id, c = .store (.listVmsByVApp id)

/-- The handler that arranges the machines of a vApp as `f` does. -/
def Handler.relisting {σ : Type} (h : Handler σ) (f : σ → List Vm → List Vm) : Handler σ where
  answer
    | .store (.listVmsByVApp id), s =>
      ((h.answer (.store (.listVmsByVApp id)) s).1.map (f s),
        (h.answer (.store (.listVmsByVApp id)) s).2)
    | c, s => h.answer c s
  now := h.now

variable {σ α β : Type} {h h' : Handler σ} {f : σ → List Vm → List Vm}

theorem Handler.relisting_answer {c : Call} (hc : ¬c.ListsMembers) :
    (h.relisting f).answer c = h.answer c := by
  cases c with
  | cluster c => rfl
  | store c =>
    cases c with
    | listVmsByVApp id => exact absurd ⟨id, rfl⟩ hc
    | _ => rfl

/-! ## Runs against two handlers -/

/-- Handlers that answer the calls of a pass alike, and tell the same time, run it alike. -/
theorem Pass.run_congr {P : Call → Prop} (hanswer : ∀ c, P c → h'.answer c = h.answer c)
    (hnow : h'.now = h.now) {p : Pass α} (hp : p.Makes P) (s : σ) : p.run h' s = p.run h s := by
  induction p generalizing s with
  | done a => rfl
  | ask c next ih =>
    rw [run_ask, run_ask, hanswer c hp.1]
    rw [ih _ (hp.2 _)]
  | tell sig next ih => rw [run_tell, run_tell, ih hp]
  | clock next ih =>
    rw [run_clock, run_clock, hnow]
    exact ih _ (hp _) s

/-- Two attempts in sequence run alike where the first one does and, after its success, the
second. -/
theorem Attempt.run_bind_congr {a : Attempt α} {g : α → Attempt β} {s : σ}
    (ha : a.run.run h' s = a.run.run h s) (hg : ∀ v,
      (g v).run.run h' (a.run.run h s).state = (g v).run.run h (a.run.run h s).state) :
    (a >>= g).run.run h' s = (a >>= g).run.run h s := by
  have hnext : Pass.run h' (ExceptT.bindCont g (a.run.run h s).value) (a.run.run h s).state =
      Pass.run h (ExceptT.bindCont g (a.run.run h s).value) (a.run.run h s).state := by
    cases (a.run.run h s).value with
    | error e => rfl
    | ok v => exact hg v
  show Pass.run h' (a.run >>= ExceptT.bindCont g) s = Pass.run h (a.run >>= ExceptT.bindCont g) s
  rw [Pass.run_bind, Pass.run_bind, ha]
  dsimp only
  rw [hnext]

/-- A call that is answered in another way, which makes no difference for what comes next. -/
theorem Attempt.run_call_bind_congr {c : Call} {g : c.Answer → Attempt β} {s : σ}
    {change : c.Answer → c.Answer}
    (hanswer : h'.answer c s = ((h.answer c s).1.map change, (h.answer c s).2))
    (hg : ∀ v, (g (change v)).run.run h' (h.answer c s).2 = (g v).run.run h (h.answer c s).2) :
    (Attempt.call c >>= g).run.run h' s = (Attempt.call c >>= g).run.run h s := by
  show ((ExceptT.bindCont g (h'.answer c s).1).run h' (h'.answer c s).2).after (.call c) =
    ((ExceptT.bindCont g (h.answer c s).1).run h (h.answer c s).2).after (.call c)
  rw [hanswer]
  dsimp only
  cases (h.answer c s).1 with
  | error e => rfl
  | ok v => exact congrArg (Ran.after (.call c)) (hg v)

namespace Reconcile

open Attempt

theorem findVApp_makes_other (ns name : String) :
    (findVApp ns name).Makes fun c => ¬c.ListsMembers := by
  refine .bind (.call nofun) fun found => ?_
  cases found with
  | none => exact .pure _
  | some v => exact .call nofun

theorem moveVApp_makes_other (ti : TemplateInstance) (a : VApp) (due : VAppStatus) :
    (moveVApp ti a due).Makes fun c => ¬c.ListsMembers := by
  unfold moveVApp
  split
  · exact .measure _
  · split
    · exact .measure _
    · refine .bind ((persistVAppStatus_makes a due).mono ?_) fun _ => .publish _ _
      rintro _ rfl
      nofun

/-- Rows with the same statuses make the same status of the vApp. -/
theorem status_signals_congr {rows rows' : List Vm}
    (hsame : ∀ x, x ∈ rows'.map Vm.status ↔ x ∈ rows.map Vm.status) (ti : TemplateInstance) :
    (ti.signals (rows'.map Vm.status)).status = (ti.signals (rows.map Vm.status)).status := by
  have hempty : (rows'.map Vm.status).isEmpty = (rows.map Vm.status).isEmpty := by
    rw [Bool.eq_iff_iff]
    simp only [List.isEmpty_iff, List.eq_nil_iff_forall_not_mem, hsame]
  have hsignals : ti.signals (rows'.map Vm.status) =
      { ti.signals (rows.map Vm.status) with statuses := rows'.map Vm.status } := by
    simp [TemplateInstance.signals, hempty]
  rw [hsignals]
  exact VAppSignals.status_congr hsame

/-- However the machines are arranged and repeated, the pass does the same. -/
theorem run_vapp_relisting
    (hsame : ∀ s rows x, x ∈ (f s rows).map Vm.status ↔ x ∈ rows.map Vm.status)
    (ti : TemplateInstance) (s : σ) :
    (vapp ti).run.run (h.relisting f) s = (vapp ti).run.run h s := by
  have halike : ∀ {γ : Type} {a : Attempt γ}, a.Makes (fun c => ¬c.ListsMembers) → ∀ s,
      a.run.run (h.relisting f) s = a.run.run h s := fun ha s =>
    Pass.run_congr (fun c hc => Handler.relisting_answer hc) rfl ha s
  apply run_bind_congr
  · exact halike (findVApp_makes_other _ _) s
  · intro found
    cases found with
    | none => exact halike (.measure _) _
    | some a =>
      -- The rows come in another order, but what is due is the same.
      apply run_call_bind_congr rfl
      intro rows
      rw [status_signals_congr (hsame _ rows) ti]
      exact halike (moveVApp_makes_other _ _ _) _

/-- **The status of a vApp depends on which statuses its machines have.** For all flags and all
lists of statuses, it is the first of four that fits, and every list with the same statuses, in
whatever order and however often, makes the same. With the flags as they are, more machines never
make a vApp deployed that goes, or that waits for a machine: the one may come to wait, the other
waits on. So a pass has the same outcome and does the same, with the same calls, writes and signals
in the same order, however the store arranges and repeats the machines that it lists. -/
theorem vapp_reads_set :
    (∀ s : VAppSignals, s.Decides s.status) ∧
    (∀ (s : VAppSignals) (statuses : List String), (∀ x, x ∈ statuses ↔ x ∈ s.statuses) →
      VAppSignals.status { s with statuses } = s.status) ∧
    (∀ (s : VAppSignals) (statuses : List String), s.statuses ⊆ statuses →
      let verdict := VAppSignals.status { s with statuses }
      (s.status = .deleting → verdict = .deleting ∨ verdict = .instantiating) ∧
      (s.status = .instantiating → s.ready = true → s.hasVms = true → verdict = .instantiating)) ∧
    ∀ {σ : Type} (h : Handler σ) (f : σ → List Vm → List Vm),
      (∀ s rows x, x ∈ (f s rows).map Vm.status ↔ x ∈ rows.map Vm.status) →
      ∀ (ti : TemplateInstance) (s : σ),
        (vapp ti).run.run (h.relisting f) s = (vapp ti).run.run h s := by
  refine ⟨VAppSignals.decides_status, ?_, ?_, ?_⟩
  · intro s statuses hsame
    exact VAppSignals.status_congr hsame
  · intro s statuses hsub
    constructor
    · intro hdeleting
      exact VAppSignals.status_of_deleting hdeleting hsub
    · intro hwaiting hready hvms
      exact VAppSignals.status_of_unsettled hwaiting hready hvms hsub
  · intro σ h f hsame ti s
    exact run_vapp_relisting hsame ti s

/-- A vApp in a virtual datacenter, with machines of these names and statuses. -/
def manned (status : VAppStatus) (machines : List (String × String)) : World where
  store := {
    vdcs := [World.boundVdc 1 "gold" "tenant-a" none]
    vapps := [Store.vappRow (.ofNat 10) ⟨0, 0⟩ ⟨"web", .ofNat 1, status, ""⟩]
    vms := machines.mapIdx fun i (name, word) =>
      Store.vmRow (.ofNat (20 + i)) ⟨0, 0⟩ ⟨name, name, "tenant-a", .ofNat 10, word⟩ }
  ids := ⟨fun n => .ofNat (30 + n), fun n => .ofNat (40 + n), 0, 0⟩
  now := ⟨0, 0⟩

/-- A machine that is gone comes before one that runs, or after it and twice. -/
theorem vapp_reads_set_manned :
    let w := manned .deployed [("web-0", VmStatus.deleted.word), ("web-1", VmStatus.poweredOn.word)]
    (vapp Episode.readyWeb).run.run
        (World.handler.relisting fun _ rows => rows.reverse ++ rows) w =
      w.run (vapp Episode.readyWeb) ∧
    (w.run (vapp Episode.readyWeb)).state.store.vapps.map VApp.status = [.deleting] := by
  intro w
  obtain ⟨-, -, -, hruns⟩ := vapp_reads_set
  refine ⟨hruns World.handler _ (fun _ rows x => ?_) Episode.readyWeb w, by decide⟩
  simp

end Reconcile

end TenantCloud
