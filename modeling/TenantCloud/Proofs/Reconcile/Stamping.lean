import TenantCloud.Proofs.Reconcile.Labels
import TenantCloud.Proofs.Store.Operations

/-!
# From the stamp back to the row

A machine is resolved while others work in the store (`World.Shares`), by whichever way: the vApp
identity on its label, its namespace, a row that is made for it, or one that another writer made
first. Once the identity of the row's vApp is on the label, the first look-up leads back to that row
(`Reconcile.stamp_leads_back`), at any later time, since no operation of the store takes a row away
or gives it other keys.
-/

set_option autoImplicit false

namespace TenantCloud

/-- An identity that the call would give to a new row is new. -/
def Call.DrawsNew : Call → World → Prop
  | .store c, w => c.DrawsNew w
  | .cluster _, _ => True

namespace World

/-- Before a call others may carry out any operations of the store. Then it is carried out, at some
time and with new identities for new rows; or it fails, and may have been carried out all the
same. -/
inductive Shares : Responses World
  | carried (c : Call) (w w₁ : World) (ids : IdSource) (now : Timestamp) :
      Relation.ReflTransGen Operates w w₁ → c.DrawsNew { w₁ with ids, now } →
      Shares c w (perform c { w₁ with ids, now }).1 (perform c { w₁ with ids, now }).2
  | failed (c : Call) (w w₁ : World) (e : Error) :
      Relation.ReflTransGen Operates w w₁ → Shares c w (.error e) w₁

variable {w w' : World} {c : Call} {r : Result c.Answer}

/-- The store keeps its keys. -/
theorem Shares.keyed (h : Shares c w r w') (hw : w.store.Keyed) : w'.store.Keyed := by
  cases h with
  | carried _ _ w₁ ids now hothers hnew =>
    have hkeyed : w₁.store.Keyed := (keyed_of_operates hw hothers).1
    cases c with
    | store c => exact (keyed_performStore (w := { w₁ with ids, now }) hkeyed hnew).1
    | cluster c =>
      show (performCluster { w₁ with ids, now } c).2.store.Keyed
      rw [store_performCluster]
      exact hkeyed
  | failed _ _ _ e hothers => exact (keyed_of_operates hw hothers).1

/-- Without a failure the call was carried out. -/
theorem Shares.performed (h : Shares c w r w') :
    ∀ v, r = .ok v → ∃ w₁, perform c w₁ = (.ok v, w') := by
  intro v hv
  cases h with
  | carried _ _ w₁ ids now => exact ⟨{ w₁ with ids, now }, Prod.ext hv rfl⟩
  | failed => cases hv

end World

namespace Reconcile

open World

variable {w w' w'' : World} {vm : VirtualMachine} {row : Vm} {created : Bool}

/-- Where the label leads to a row, a machine is resolved by one look-up. -/
theorem resolve_of_label {id : Uuid} (hw : w.faults = []) (hlabel : vm.labelledVAppId? = some id)
    (hrow : w.store.vmIn? id vm.name = some row) :
    w.Does (resolve vm) (.resolved row false) w
      [.call (.store (.getVmByVAppAndName id vm.name))] := by
  have hfind : w.Does (findByLabel vm) (some row) w
      [.call (.store (.getVmByVAppAndName id vm.name))] := by
    unfold findByLabel
    rw [hlabel]
    exact .look hw rfl hrow
  have hknown : w.Does (findVm vm) (some row) w
      [.call (.store (.getVmByVAppAndName id vm.name))] := hfind.bind (.pure w _)
  exact hknown.bind (.pure w _)

/-- However a machine was resolved, its row is there and has its name. -/
theorem mem_of_resolved (hw : w.store.Keyed)
    (hwalk : Relation.ReflTransGen (Pass.Step Shares) ((resolve vm).run, w)
      (.done (.ok (.resolved row created)), w')) :
    w'.store.Keyed ∧ row ∈ w'.store.vms ∧ row.vmName = vm.name := by
  have hsupplies : Supplies Shares (fun _ _ => True) (fun w => w.store.Keyed)
      (fun row w => row ∈ w.store.vms ∧ row.vmName = vm.name) vm :=
    supplies_of_performed vm (fun _ _ => trivial) (fun _ hw hr => hr.keyed hw)
      fun hr => hr.performed _ rfl
  obtain ⟨hkeyed, hrow⟩ := Pass.Always.walk (hsupplies.resolve hw) hwalk
  exact ⟨hkeyed, hrow row rfl⟩

/-- **The stamp leads back to the row.** A machine is resolved in a store whose rows share no keys,
by any of the ways to a row and with others at work there, until it is known to have this row. Then,
after any further operations of the store, the machine with the identity of the row's vApp on its
label, whatever was on the label before, resolves to the row of the same identity: the first look-up
finds it, no other call is made, and nothing changes. -/
theorem stamp_leads_back (hw : w.store.Keyed)
    (hwalk : Relation.ReflTransGen (Pass.Step Shares) ((resolve vm).run, w)
      (.done (.ok (.resolved row created)), w'))
    (hlater : Relation.ReflTransGen Operates w' w'') (hfaults : w''.faults = []) :
    ∃ row' ∈ w''.store.vms, row'.id = row.id ∧ row'.vappId = row.vappId ∧
      w''.Does (resolve (vm.stamped row.vappId)) (.resolved row' false) w''
        [.call (.store (.getVmByVAppAndName row.vappId vm.name))] := by
  obtain ⟨hkeyed, hmem, hname⟩ := mem_of_resolved hw hwalk
  obtain ⟨hkeyed', hkeeps⟩ := keyed_of_operates hkeyed hlater
  obtain ⟨row', hmem', hid, -, hvapp, hname'⟩ := hkeeps.vms row hmem
  have hfits : ∀ r : Vm, r.isIn row.vappId vm.name = true ↔
      (r.vappId, r.vmName) = (row'.vappId, row'.vmName) := by
    intro r
    rw [hvapp, hname', hname, Vm.isIn, Bool.and_eq_true, beq_iff_eq, beq_iff_eq, Prod.mk.injEq]
  have hrow : w''.store.vmIn? row.vappId vm.name = some row' := hkeyed'.vmIn.find? hmem' hfits
  have hlabel : (vm.stamped row.vappId).labelledVAppId? = some row.vappId :=
    vm.labelledVAppId?_stamped row.vappId
  exact ⟨row', hmem', hid, hvapp, resolve_of_label hfaults hlabel hrow⟩

/-- A machine with the identity of a vApp that is not there. -/
def misled : VirtualMachine := (labelled .running).stamped (.ofNat 99)

/-- What another writer makes for the machine, in a vApp of its own. -/
def rivalVm : NewVm := { misled.newVm (.ofNat 7) with status := VmStatus.starting.word }

def rivalRow : Vm := Store.vmRow (.ofNat 20) ⟨0, 0⟩ rivalVm

/-- The vApp of the machine is made. -/
def housed : World :=
  (performStore undiscovered (.createVApp (misled.newVApp (.ofNat 1) "web"))).2

/-- The other writer makes the row first. -/
def outrun : World := (performStore housed (.createVm rivalVm)).2

/-- Later the row has another status. -/
def outrunLater : World :=
  (performStore outrun (.updateVmStatus rivalRow.id VmStatus.poweredOff.word)).2

theorem operates_rival : Operates housed outrun :=
  .call (.createVm rivalVm) housed housed.ids housed.now (show housed.DrawsNewVm by decide)

/-- The row is read again after its creation was refused. -/
theorem walk_misled : Relation.ReflTransGen (Pass.Step Shares) ((resolve misled).run, undiscovered)
    (.done (.ok (.resolved rivalRow true)), outrun) := by
  have halone : ∀ (c : Call) (w : World), c.DrawsNew w →
      Shares c w (perform c w).1 (perform c w).2 :=
    fun c w hnew => .carried c w w w.ids w.now .refl hnew
  -- The label, the namespace, the virtual datacenter and the vApp are looked up.
  refine .head (.answer (halone _ _ trivial)) ?_
  refine .head (.answer (halone _ _ trivial)) ?_
  refine .head (.answer (halone _ _ trivial)) ?_
  refine .head (.answer (halone _ _ trivial)) ?_
  -- The vApp is made and told of.
  refine .head (.answer (halone _ _ (show undiscovered.DrawsNew by decide))) ?_
  refine .head .tell (.head .tell ?_)
  have hrefused : Shares (.store (.createVm (misled.newVm (.ofNat 10)))) housed
      (.error (Store.vmExists (misled.newVm (.ofNat 10)))) outrun :=
    .carried _ housed outrun outrun.ids outrun.now (.single operates_rival)
      (show outrun.DrawsNewVm by decide)
  refine .head (.answer hrefused) ?_
  exact .head (.answer (halone _ _ trivial)) .refl

/-- The stamp has the vApp of the other writer in place of the one that was made, and leads to its
row. -/
theorem misled_stamp_leads_back :
    rivalRow.vappId = .ofNat 7 ∧ undiscovered.store.Keyed ∧
    Relation.ReflTransGen (Pass.Step Shares) ((resolve misled).run, undiscovered)
      (.done (.ok (.resolved rivalRow true)), outrun) ∧
    Relation.ReflTransGen Operates outrun outrunLater ∧
    ∃ row ∈ outrunLater.store.vms, row.id = rivalRow.id ∧
      row.status = VmStatus.poweredOff.word ∧
      outrunLater.Does (resolve (misled.stamped (.ofNat 7))) (.resolved row false) outrunLater
        [.call (.store (.getVmByVAppAndName (.ofNat 7) "web-0"))] := by
  have hkeyed : undiscovered.store.Keyed := by decide
  have hlater : Relation.ReflTransGen Operates outrun outrunLater :=
    .single (.call (.updateVmStatus rivalRow.id VmStatus.poweredOff.word) outrun outrun.ids
      outrun.now trivial)
  obtain ⟨row, hrow, hid, -, hdoes⟩ := stamp_leads_back hkeyed walk_misled hlater rfl
  have hstatus : ∀ row ∈ outrunLater.store.vms, row.status = VmStatus.poweredOff.word := by decide
  exact ⟨rfl, hkeyed, walk_misled, hlater, row, hrow, hid, hstatus row hrow, hdoes⟩

end Reconcile

end TenantCloud
