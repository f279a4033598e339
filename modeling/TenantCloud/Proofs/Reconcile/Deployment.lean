import TenantCloud.Proofs.Reconcile.Membership

/-!
# When a vApp is deployed

A pass for a template instance that meets no failure deploys a vApp exactly if it is being
instantiated, the instance is ready and did not fail, the vApp has machines, and of each of them
something is known and none goes (`World.deploys_iff`). The machines need not be stable for that:
one that starts, is in error or has a status that no rule knows holds nothing back
(`World.starting_is_deployed`).
-/

set_option autoImplicit false

namespace TenantCloud

/-- The status of a machine that stays as it is. -/
def VAppSignals.isStable (status : String) : Bool :=
  status == VmStatus.poweredOn.word || status == VmStatus.poweredOff.word ||
    status == VmStatus.suspended.word

/-- Only a vApp that is being instantiated becomes deployed. -/
theorem VAppStatus.eq_instantiating_of_moves {s : VAppStatus} (h : s.Moves .deployed) :
    s = .instantiating := by
  revert h
  cases s <;> decide

namespace Store

/-- What it takes for a vApp to be deployed. -/
structure MayDeploy (s : Store) (ti : TemplateInstance) (a : VApp) : Prop where
  found : s.vappAt? ti.ns ti.name = some a
  status : a.status = .instantiating
  failed : ti.hasFailed = false
  ready : ti.isReady = true
  peopled : s.vmsIn a.id ≠ []
  known : ∀ r ∈ s.vmsIn a.id, r.status ≠ "" ∧ r.status ≠ VmStatus.unresolved.word
  staying : ∀ r ∈ s.vmsIn a.id, r.status ≠ VmStatus.deleting.word ∧ r.status ≠ VmStatus.deleted.word

/-- A vApp has machines, and each of them stays as it is. -/
def IsStable (s : Store) (id : Uuid) : Prop :=
  s.vmsIn id ≠ [] ∧ ∀ r ∈ s.vmsIn id, VAppSignals.isStable r.status = true

variable {s : Store} {ti : TemplateInstance} {a : VApp} {id : Uuid}

theorem mayDeploy_iff : s.MayDeploy ti a ↔ s.vappAt? ti.ns ti.name = some a ∧
    a.status = .instantiating ∧ s.due ti a.id = .deployed := by
  have hdue : s.due ti a.id = .deployed ↔ ti.hasFailed = false ∧ ti.isReady = true ∧
      s.vmsIn a.id ≠ [] ∧
      (∀ r ∈ s.vmsIn a.id, r.status ≠ "" ∧ r.status ≠ VmStatus.unresolved.word) ∧
      ∀ r ∈ s.vmsIn a.id,
        r.status ≠ VmStatus.deleting.word ∧ r.status ≠ VmStatus.deleted.word := by
    rw [due, (VAppSignals.decides_status _).deployed]
    simp [VAppSignals.Waits, VAppSignals.HasUnsettled, VAppSignals.HasGoing,
      TemplateInstance.signals, and_assoc]
  rw [hdue]
  constructor
  · intro h
    exact ⟨h.found, h.status, h.failed, h.ready, h.peopled, h.known, h.staying⟩
  · rintro ⟨hfound, hstatus, hfailed, hready, hpeopled, hknown, hstaying⟩
    exact ⟨hfound, hstatus, hfailed, hready, hpeopled, hknown, hstaying⟩

end Store

namespace World

variable {w : World}

/-- A pass for a template instance turns a vApp that is not deployed into one that is. -/
def Deploys (w : World) (ti : TemplateInstance) (a : VApp) : Prop :=
  a.status ≠ .deployed ∧ ∃ a',
    Table.get? (w.run (Reconcile.vapp ti)).state.store.vapps a.id = some a' ∧ a'.status = .deployed

theorem deploys_iff_mayDeploy (hw : w.faults = [])
    (hid : Table.Distinct w.store.vapps VApp.id) (ti : TemplateInstance) {a : VApp}
    (ha : a ∈ w.store.vapps) : w.Deploys ti a ↔ w.store.MayDeploy ti a := by
  obtain ⟨s, t, hdoes, hsettles⟩ := Reconcile.vapp_settles hw hid ti
  obtain ⟨a', ha', hstatus⟩ := hsettles a ha
  have hafter : Table.get? (w.run (Reconcile.vapp ti)).state.store.vapps a.id = some a' := by
    rw [hdoes]
    exact ha'
  rw [Store.mayDeploy_iff]
  constructor
  · rintro ⟨hbefore, b, hb, hdeployed⟩
    obtain rfl := Option.some.inj (hafter.symm.trans hb)
    rw [hstatus, Store.settled] at hdeployed
    split at hdeployed
    · rename_i hfits
      have hmay := hfits.2
      rw [hdeployed] at hmay
      exact ⟨hfits.1, VAppStatus.eq_instantiating_of_moves ⟨hbefore, hmay⟩, hdeployed⟩
    · exact absurd hdeployed hbefore
  · rintro ⟨hfound, hbefore, hdue⟩
    have hother : a.status ≠ .deployed := by
      rw [hbefore]
      decide
    refine ⟨hother, a', hafter, ?_⟩
    rw [hstatus, Store.settled, hdue, hbefore]
    exact if_pos ⟨hfound, rfl⟩

/-- **When a vApp is deployed.** A pass for a template instance that meets no failure succeeds, and
it turns a vApp into a deployed one exactly if that is the vApp of the instance and is being
instantiated, the instance is ready and did not fail, the vApp has machines, and of each something
is known and none goes or is gone. Then its machines all stay as they are, unless one of them has
yet another status, which holds nothing back. -/
theorem deploys_iff (hw : w.faults = []) (hid : Table.Distinct w.store.vapps VApp.id)
    (ti : TemplateInstance) :
    (w.run (Reconcile.vapp ti)).value = .ok () ∧ ∀ a ∈ w.store.vapps,
      (w.Deploys ti a ↔ w.store.MayDeploy ti a) ∧ (w.Deploys ti a → w.store.vmsIn a.id ≠ []) ∧
      ((w.Deploys ti a → w.store.IsStable a.id) ↔
        ¬(w.store.MayDeploy ti a ∧
          ∃ r ∈ w.store.vmsIn a.id, VAppSignals.isStable r.status = false)) := by
  obtain ⟨s, t, hdoes, -⟩ := Reconcile.vapp_settles hw hid ti
  constructor
  · rw [hdoes]
  · intro a ha
    have hiff := deploys_iff_mayDeploy hw hid ti ha
    refine ⟨hiff, fun h => (hiff.1 h).peopled, ?_⟩
    rw [hiff]
    constructor
    · rintro hstable ⟨hmay, r, hr, hmoving⟩
      rw [(hstable hmay).2 r hr] at hmoving
      cases hmoving
    · intro hnone hmay
      refine ⟨hmay.peopled, fun r hr => ?_⟩
      by_contra hmoving
      exact hnone ⟨hmay, r, hr, Bool.eq_false_iff.2 hmoving⟩

open Reconcile in
/-- One machine runs and the other is suspended. -/
theorem suspended_is_deployed :
    let w := manned .instantiating
      [("web-0", VmStatus.poweredOn.word), ("web-1", VmStatus.suspended.word)]
    (w.run (vapp Episode.readyWeb)).value = .ok () ∧
    ∀ a ∈ w.store.vapps, w.Deploys Episode.readyWeb a ∧ w.store.IsStable a.id := by
  intro w
  obtain ⟨hdone, hall⟩ := deploys_iff (w := w) rfl (by decide) Episode.readyWeb
  refine ⟨hdone, fun a ha => ?_⟩
  obtain rfl := List.mem_singleton.1 ha
  obtain ⟨hiff, -, -⟩ := hall _ ha
  exact ⟨hiff.2 ⟨by decide, rfl, by decide, by decide, by decide, by decide, by decide⟩,
    by decide, by decide⟩

open Reconcile in
/-- A machine that starts does not hold its vApp back. -/
theorem starting_is_deployed :
    let w := manned .instantiating [("web-0", VmStatus.starting.word)]
    w.faults = [] ∧ ∃ a ∈ w.store.vapps, w.Deploys Episode.readyWeb a ∧
      (w.store.vmsIn a.id).map Vm.status = ["STARTING"] ∧ ¬w.store.IsStable a.id := by
  intro w
  refine ⟨rfl, _, List.mem_singleton_self _, ⟨by decide, _, rfl, by decide⟩, by decide, fun h => ?_⟩
  exact absurd (h.2 _ (List.mem_singleton_self _)) (by decide)

end World

end TenantCloud
