import TenantCloud.Proofs.Data.Uuid
import TenantCloud.Proofs.Object.Patches
import TenantCloud.Reconcile.VirtualMachine

/-!
# Labels that passes put on machines

`Cluster.named` is a machine with the name of its vApp on the label, `VirtualMachine.stamped` one
with the identity of its vApp. Either is put on once: a machine that has the label stays as it is
(`Cluster.named_named`, `Cluster.named_stamped`, `VirtualMachine.stamped_of_label?`).
`Cluster.showing` is a cluster where one machine is replaced.
-/

set_option autoImplicit false

namespace TenantCloud

theorem Metadata.setLabel_of_label? {m : Metadata} {key value : String}
    (h : m.label? key = some value) : m.setLabel key value = m := by
  obtain ⟨l, hl, hget⟩ := Option.bind_eq_some_iff.1 h
  unfold setLabel
  rw [hl, Option.getD_some, Dict.insert_of_get? hget, ← hl]

namespace VirtualMachine

/-- Where a machine is in the cluster. -/
def key (vm : VirtualMachine) : ObjectKey := ⟨vm.ns, vm.name⟩

/-- The machine with other labels. -/
def withLabels (vm : VirtualMachine) (labels : Option Labels) : VirtualMachine :=
  { vm with metadata := { vm.metadata with labels } }

/-- The machine with the identity of its vApp on the label. -/
def stamped (vm : VirtualMachine) (vappId : Uuid) : VirtualMachine :=
  { vm with metadata := vm.metadata.setLabel Vocabulary.vappIdLabel vappId.render }

variable {vm : VirtualMachine} {id : Uuid}

theorem stamped_of_label? (h : vm.metadata.label? Vocabulary.vappIdLabel = some id.render) :
    vm.stamped id = vm := by
  rw [stamped, Metadata.setLabel_of_label? h]

theorem labelledVAppId?_stamped (vm : VirtualMachine) (id : Uuid) :
    (vm.stamped id).labelledVAppId? = some id := by
  unfold labelledVAppId? stamped
  rw [Metadata.label?_setLabel, if_pos rfl, Option.bind_some, Uuid.parse?_render]

theorem label?_stamped (vm : VirtualMachine) (id : Uuid) {name : String}
    (h : name ≠ Vocabulary.vappIdLabel) :
    (vm.stamped id).metadata.label? name = vm.metadata.label? name := by
  unfold stamped
  rw [Metadata.label?_setLabel, if_neg h]

end VirtualMachine

namespace Cluster

/-- The name of the vApp that is derived for a machine. -/
def derivedName? (c : Cluster) (vm : VirtualMachine) : Option String :=
  if vm.labelledVAppName? = none then
    (vm.metadata.filledLabel? Vocabulary.templateInstanceOwnerLabel).bind fun owner =>
      (c.templateInstanceWithUid? owner).map (·.name)
  else none

/-- The machine with the name of its vApp. -/
def named (c : Cluster) (vm : VirtualMachine) : VirtualMachine :=
  Reconcile.withVAppName vm (c.derivedName? vm)

/-- The cluster with a machine at a place. -/
def showing (c : Cluster) (key : ObjectKey) (vm : VirtualMachine) : Cluster :=
  { c with vms := c.vms.insert key vm }

variable {c : Cluster} {vm : VirtualMachine} {key : ObjectKey}

theorem derivedName?_congr {vm' : VirtualMachine}
    (hname : vm'.metadata.label? Vocabulary.vappNameLabel =
      vm.metadata.label? Vocabulary.vappNameLabel)
    (howner : vm'.metadata.label? Vocabulary.templateInstanceOwnerLabel =
      vm.metadata.label? Vocabulary.templateInstanceOwnerLabel) :
    c.derivedName? vm' = c.derivedName? vm := by
  unfold derivedName? VirtualMachine.labelledVAppName? Metadata.filledLabel?
  rw [hname, howner]

/-- A machine whose label has the name is named. -/
theorem named_of_label? {name : String}
    (hlabel : vm.metadata.label? Vocabulary.vappNameLabel = some name)
    (hderived : c.derivedName? vm = none ∨ c.derivedName? vm = some name) :
    c.named vm = vm := by
  unfold named
  rcases hderived with hderived | hderived
  · rw [hderived]
    rfl
  · rw [hderived, Reconcile.withVAppName, Metadata.setLabel_of_label? hlabel]

/-- Naming it again changes nothing. -/
theorem named_named (c : Cluster) (vm : VirtualMachine) : c.named (c.named vm) = c.named vm := by
  cases hderived : c.derivedName? vm with
  | none =>
    have hsame : c.named vm = vm := by
      rw [named, hderived]
      rfl
    rw [hsame, hsame]
  | some name =>
    have hnamed : c.named vm = { vm with
        metadata := vm.metadata.setLabel Vocabulary.vappNameLabel name } := by
      rw [named, hderived]
      rfl
    have hlabel : (c.named vm).metadata.label? Vocabulary.vappNameLabel = some name := by
      rw [hnamed, Metadata.label?_setLabel, if_pos rfl]
    have howner : (c.named vm).metadata.label? Vocabulary.templateInstanceOwnerLabel =
        vm.metadata.label? Vocabulary.templateInstanceOwnerLabel := by
      rw [hnamed, Metadata.label?_setLabel, if_neg (by decide)]
    refine named_of_label? hlabel ?_
    unfold derivedName? Metadata.filledLabel?
    rw [howner]
    split
    · -- The name has no text, so that it is derived again.
      refine .inr ?_
      rw [derivedName?] at hderived
      split at hderived
      · exact hderived
      · cases hderived
    · exact .inl rfl

theorem named_stamped (h : c.named vm = vm) (id : Uuid) :
    c.named (vm.stamped id) = vm.stamped id := by
  have hsame : c.derivedName? (vm.stamped id) = c.derivedName? vm :=
    derivedName?_congr (vm.label?_stamped id (by decide)) (vm.label?_stamped id (by decide))
  cases hderived : c.derivedName? vm with
  | none =>
    rw [named, hsame, hderived]
    rfl
  | some name =>
    have hlabel : vm.metadata.label? Vocabulary.vappNameLabel = some name := by
      rw [← h, named, hderived, Reconcile.withVAppName, Metadata.label?_setLabel, if_pos rfl]
    have hkept : (vm.stamped id).metadata.label? Vocabulary.vappNameLabel = some name := by
      rw [vm.label?_stamped id (by decide), hlabel]
    exact named_of_label? hkept (.inr (hsame.trans hderived))

/-- Names and identities are put on labels. -/
theorem exists_withLabels (c : Cluster) (vm : VirtualMachine) :
    ∃ labels, c.named vm = vm.withLabels labels := by
  unfold named
  cases c.derivedName? vm with
  | none => exact ⟨vm.metadata.labels, rfl⟩
  | some name => exact ⟨_, rfl⟩

theorem get?_showing (c : Cluster) (key : ObjectKey) (vm : VirtualMachine) :
    (c.showing key vm).vms.get? key = some vm :=
  Dict.get?_insert_self _ _ _

theorem showing_of_get? (h : c.vms.get? key = some vm) : c.showing key vm = c := by
  rw [showing, Dict.insert_of_get? h]

theorem showing_showing (c : Cluster) (key : ObjectKey) (vm vm' : VirtualMachine) :
    (c.showing key vm).showing key vm' = c.showing key vm' := by
  have hvms : (c.vms.insert key vm).insert key vm' = c.vms.insert key vm' := by
    refine Dict.ext_get? fun k => ?_
    simp only [Dict.get?_insert]
    split <;> rfl
  simp only [showing, hvms]

theorem setVmLabel_showing (c : Cluster) (vm : VirtualMachine) (ns name label value : String) :
    (c.showing ⟨ns, name⟩ vm).setVmLabel ns name label value = .ok (c.showing ⟨ns, name⟩
      { vm with metadata := vm.metadata.setLabel label value }) := by
  unfold setVmLabel change
  rw [get?_showing]
  exact congrArg Except.ok (c.showing_showing ⟨ns, name⟩ vm _)

end Cluster

end TenantCloud
