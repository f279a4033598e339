import TenantCloud.Proofs.Effect.Runs
import TenantCloud.Proofs.Reconcile.MachineCalls
import TenantCloud.Reconcile.VApp

/-!
# Which passes mark a vApp as deleted

A pass for a template instance never does (`Reconcile.isMarked_run_vapp`), and what is done for one
that is gone marks the vApp of that instance and no other
(`Reconcile.isMarked_run_templateInstanceDeleted`); without faults it does
(`Reconcile.isMarked_run_calm`).
-/

set_option autoImplicit false

namespace TenantCloud

/-! ## Rows -/

namespace Store

/-- The vApp with an identity is marked as deleted. -/
def IsMarked (s : Store) (id : Uuid) : Prop := ∃ a ∈ s.vapps, a.id = id ∧ a.status = .deleted

/-- The vApp is that of the template instance at a place. -/
def Designates (s : Store) (k : ObjectKey) (id : Uuid) : Prop :=
  ∃ v a, s.vdcAt? k.ns = some v ∧ s.vappNamed? v.id k.name = some a ∧ a.id = id

theorem isMarked_updateVAppStatus {s : Store} {now : Timestamp} {id id' : Uuid}
    {status : VAppStatus} (h : (s.updateVAppStatus now id' status).2.IsMarked id) :
    s.IsMarked id ∨ id = id' ∧ status = .deleted := by
  obtain ⟨a, ha, hid, hst⟩ := h
  obtain ⟨b, hb, rfl⟩ := List.mem_map.1 ha
  split at hid
  · rename_i hrow
    rw [if_pos hrow] at hst
    exact .inr ⟨hid.symm.trans (beq_iff_eq.1 hrow), hst⟩
  · rename_i hrow
    rw [if_neg hrow] at hst
    exact .inl ⟨b, hb, hid, hst⟩

theorem isMarked_of_mem {s : Store} {now : Timestamp} {a : VApp} (ha : a ∈ s.vapps) :
    (s.updateVAppStatus now a.id .deleted).2.IsMarked a.id := by
  have hrow : (Row.rowId a == a.id) = true := beq_iff_eq.2 rfl
  refine ⟨_, List.mem_map.2 ⟨a, ha, rfl⟩, ?_⟩
  rw [if_pos hrow]
  exact ⟨rfl, rfl⟩

end Store

/-! ## Passes -/

namespace World

variable {w : World} {id : Uuid}

theorem isMarked_answer_update {id' : Uuid} {status : VAppStatus}
    (h : (answer (.store (.updateVAppStatus id' status)) w).2.store.IsMarked id) :
    w.store.IsMarked id ∨ id = id' ∧ status = .deleted := by
  obtain ⟨faults, ⟨e, he⟩ | ⟨a, ha, he⟩ | he⟩ :=
    answer_cases (.store (.updateVAppStatus id' status)) w <;> rw [he] at h
  · exact .inl h
  · exact .inl h
  · exact Store.isMarked_updateVAppStatus h

end World

namespace VAppSignals

/-- No machines and no instance make a vApp deleted. -/
theorem status_ne_deleted (s : VAppSignals) : s.status ≠ .deleted := by
  unfold status
  repeat' split
  all_goals decide

end VAppSignals

namespace Reconcile

open Attempt World

variable {w : World} {id : Uuid}

/-- The call reads rows, or writes a status of the vApps that `P` is about. -/
def WritesOnly (P : Uuid → VAppStatus → Prop) (c : Call) : Prop :=
  (∃ r, c = .store r ∧ r.isWrite = false) ∨
    ∃ id status, P id status ∧ c = .store (.updateVAppStatus id status)

theorem persistVAppStatus_makes (a : VApp) (status : VAppStatus) :
    (persistVAppStatus a status).Makes (· = .store (.updateVAppStatus a.id status)) := by
  refine .bind (timed_makes (.call rfl)) fun ⟨r, elapsed⟩ => ?_
  cases r with
  | ok b => exact .measure _
  | error e => exact .bind (.measure _) fun _ => .throw _

theorem findVApp_makes (P : Uuid → VAppStatus → Prop) (ns name : String) :
    (findVApp ns name).Makes (WritesOnly P) := by
  refine .bind (.call (.inl ⟨_, rfl, rfl⟩)) fun found => ?_
  cases found with
  | none => exact .pure _
  | some v => exact .call (.inl ⟨_, rfl, rfl⟩)

theorem vapp_makes (ti : TemplateInstance) :
    (vapp ti).Makes (WritesOnly fun _ status => status ≠ .deleted) := by
  refine .bind (findVApp_makes _ _ _) fun found => ?_
  cases found with
  | none => exact .measure _
  | some a =>
    refine .bind (.call (.inl ⟨_, rfl, rfl⟩)) fun vms => ?_
    unfold moveVApp
    split
    · exact .measure _
    · split
      · exact .measure _
      · refine .bind ((persistVAppStatus_makes a _).mono fun c hc => ?_) fun _ => trivial
        exact .inr ⟨_, _, VAppSignals.status_ne_deleted _, hc⟩

theorem templateInstanceDeleted_makes (ns name : String) : (templateInstanceDeleted ns name).Makes
    (WritesOnly fun _ status => status = .deleted) := by
  refine .bind (findVApp_makes _ _ _) fun found => ?_
  cases found with
  | none => exact .measure _
  | some a =>
    dsimp only
    split
    · exact .measure _
    · exact (persistVAppStatus_makes a .deleted).mono fun c hc => .inr ⟨_, _, rfl, hc⟩

/-- A pass for a template instance marks no vApp. -/
theorem isMarked_run_vapp {ti : TemplateInstance} (h : (w.run (vapp ti)).state.store.IsMarked id) :
    w.store.IsMarked id := by
  have hstep : ∀ (c : Call) (v : World), WritesOnly (fun _ status => status ≠ .deleted) c →
      (v.store.IsMarked id → w.store.IsMarked id) →
      (answer c v).2.store.IsMarked id → w.store.IsMarked id := by
    rintro c v (⟨c, rfl, hc⟩ | ⟨id', status, hst, rfl⟩) hv hmark
    · rw [store_answer_read hc] at hmark
      exact hv hmark
    · exact (isMarked_answer_update hmark).elim hv fun h => absurd h.2 hst
  exact Pass.Makes.keeps (I := fun v : World => v.store.IsMarked id → w.store.IsMarked id)
    (vapp_makes ti) hstep (fun h => h) h

theorem store_run_findVApp (w : World) (ns name : String) :
    (w.run (findVApp ns name)).state.store = w.store := by
  refine Pass.Makes.keeps (I := fun v : World => v.store = w.store)
    (findVApp_makes (fun _ _ => False) ns name) (fun c v hc hv => ?_) rfl
  obtain ⟨r, rfl, hr⟩ | ⟨_, _, hf, -⟩ := hc
  · exact (store_answer_read hr v).trans hv
  · exact hf.elim

/-- A vApp that is found is the one of the template instance. -/
theorem value_run_findVApp {ns name : String} {a : VApp}
    (h : (w.run (findVApp ns name)).value = .ok (some a)) :
    w.store.Designates ⟨ns, name⟩ a.id := by
  obtain ⟨found, hfound, h⟩ := value_bind h
  have hstore : (answer (.store (.getVdcByNamespace ns)) w).2.store = w.store :=
    store_answer_read rfl w
  cases found with
  | none => cases h
  | some v =>
    rcases value_answer hfound with hv | ⟨faults, hv⟩
    · cases hv
    · rcases value_answer h with ha | ⟨faults', ha⟩
      · cases ha
      · refine ⟨v, a, Except.ok.inj hv, ?_, rfl⟩
        rw [← hstore]
        exact Except.ok.inj ha

/-- What is done for a template instance that is gone marks its vApp only. -/
theorem isMarked_run_templateInstanceDeleted {ns name : String}
    (h : (w.run (templateInstanceDeleted ns name)).state.store.IsMarked id) :
    w.store.IsMarked id ∨ w.store.Designates ⟨ns, name⟩ id := by
  refine after_bind (I := fun v : World => v.store.IsMarked id →
    w.store.IsMarked id ∨ w.store.Designates ⟨ns, name⟩ id) (fun e _ h => ?_)
    (fun found hfound h => ?_) h
  · rw [store_run_findVApp] at h
    exact .inl h
  · cases found with
    | none =>
      change (w.run (findVApp ns name)).state.store.IsMarked id at h
      rw [store_run_findVApp] at h
      exact .inl h
    | some a =>
      dsimp only at h
      split at h
      · change (w.run (findVApp ns name)).state.store.IsMarked id at h
        rw [store_run_findVApp] at h
        exact .inl h
      · have hstep : ∀ (c : Call) (v : World), c = .store (.updateVAppStatus a.id .deleted) →
            (v.store.IsMarked id → w.store.IsMarked id ∨ id = a.id) →
            (answer c v).2.store.IsMarked id → w.store.IsMarked id ∨ id = a.id := by
          rintro c v rfl hv hmark
          exact (isMarked_answer_update hmark).elim hv fun h => .inr h.1
        have hend := Pass.Makes.keeps
          (I := fun v : World => v.store.IsMarked id → w.store.IsMarked id ∨ id = a.id)
          (persistVAppStatus_makes a .deleted) hstep (fun h => by
            rw [store_run_findVApp] at h
            exact .inl h) h
        refine hend.imp_right fun hid => ?_
        rw [hid]
        exact value_run_findVApp hfound

theorem store_run_persistVAppStatus (a : VApp) (status : VAppStatus) :
    (w.calm.run (persistVAppStatus a status)).state.store =
      (w.store.updateVAppStatus w.now a.id status).2 := rfl

/-- Without faults it marks the vApp. -/
theorem isMarked_run_calm {k : ObjectKey} (h : w.store.Designates k id)
    (hid : ¬ w.store.IsMarked id) :
    (w.calm.run (templateInstanceDeleted k.ns k.name)).state.store.IsMarked id := by
  obtain ⟨v, a, hv, ha, rfl⟩ := h
  have hmem : a ∈ w.store.vapps := List.mem_of_find?_eq_some ha
  have hst : a.status ≠ .deleted := fun hst => hid ⟨a, hmem, rfl, hst⟩
  have hvdc : (answer (.store (.getVdcByNamespace k.ns)) w.calm).1 = .ok (some v) :=
    congrArg Except.ok hv
  have hvapp : (answer (.store (.getVAppByName v.id k.name)) w.calm).1 = .ok (some a) :=
    congrArg Except.ok ha
  have hfind : (w.calm.run (findVApp k.ns k.name)).value = .ok (some a) ∧
      (w.calm.run (findVApp k.ns k.name)).state = w.calm := by
    unfold findVApp Attempt.store
    rw [run_bind, run_call, hvdc]
    exact ⟨hvapp, rfl⟩
  unfold templateInstanceDeleted
  rw [run_bind, hfind.1, hfind.2]
  dsimp only
  rw [if_neg hst, store_run_persistVAppStatus]
  exact Store.isMarked_of_mem hmem

end Reconcile

end TenantCloud
