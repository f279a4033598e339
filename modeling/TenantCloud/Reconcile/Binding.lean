import TenantCloud.Effect.Pass
import TenantCloud.VirtualMachine.Lifecycle
import TenantCloud.Vocabulary

/-!
# Machines and their rows

`deriveVAppName` labels a machine that a template made with the name of its vApp. `resolve` finds
the row of a machine: by the vApp identity on its label, else by its namespace, else by making a
row, and a vApp to hold it, in the virtual datacenter of the namespace. `stampVAppId` puts the
vApp identity of the row on the label. A creation that another writer won is no failure: the row
is read again.
-/

set_option autoImplicit false

namespace TenantCloud

/-- The row of a machine, or why it has none. -/
inductive Resolution
  | resolved (row : Vm) (created : Bool)
  /-- The machine does not belong to this system. -/
  | notManaged (reason : String)
  deriving DecidableEq

namespace VirtualMachine

/-- The vApp identity on the label, where it is one. -/
def labelledVAppId? (vm : VirtualMachine) : Option Uuid :=
  (vm.metadata.label? Vocabulary.vappIdLabel).bind Uuid.parse?

/-- The name of the vApp on the label, where it has a text. -/
def labelledVAppName? (vm : VirtualMachine) : Option String :=
  vm.metadata.filledLabel? Vocabulary.vappNameLabel

/-- The name to be shown for a machine. -/
def displayName (vm : VirtualMachine) : String :=
  ((vm.metadata.annotation? Vocabulary.displayNameAnnotation).filter (· ≠ "")).getD vm.name

/-- The vApp to be created for a machine. -/
def newVApp (vm : VirtualMachine) (vdcId : Uuid) (name : String) : NewVApp where
  name := name
  vdcId := vdcId
  status := .instantiating
  description := "Discovered from virtual machine " ++ vm.name

/-- The row to be created for a machine. -/
def newVm (vm : VirtualMachine) (vappId : Uuid) : NewVm where
  name := vm.displayName
  vmName := vm.name
  ns := vm.ns
  vappId := vappId
  status := vm.desiredStatus.word

end VirtualMachine

namespace Reconcile

open Attempt

/-! ## The name of the vApp -/

/-- Label a machine with the name of the template instance that made it, unless it has such a label
already. Gives the name that was written. -/
def deriveVAppName (vm : VirtualMachine) : Attempt (Option String) := do
  match vm.labelledVAppName?, vm.metadata.filledLabel? Vocabulary.templateInstanceOwnerLabel with
  | none, some owner =>
    match ← cluster (.findTemplateInstanceByUid owner) with
    | none => return none
    | some ti =>
      cluster (.setVirtualMachineLabel vm.ns vm.name Vocabulary.vappNameLabel ti.name)
      publish vm.reference {
        reason := "VAppLabelSet"
        action := "LabelDerivation"
        note := some ("Set " ++ Vocabulary.vappNameLabel ++ "=" ++ ti.name ++
          " from template instance") }
      return some ti.name
  | _, _ => return none

/-! ## The row -/

/-- The vApp with a name in a virtual datacenter, made for a machine where it is missing. -/
def ensureVApp (vm : VirtualMachine) (vdc : Vdc) (name : String) : Attempt VApp := do
  match ← store (.getVAppByName vdc.id name) with
  | some vapp => return vapp
  | none =>
    match ← outcome (store (.createVApp (vm.newVApp vdc.id name))) with
    | .ok vapp =>
      measure (.recordCreated "vapp" .success)
      publish vm.reference {
        reason := "VAppRecordCreated"
        action := "Resolve"
        note := some ("Created vApp record " ++ vapp.name ++ " in VDC " ++ vdc.name) }
      return vapp
    | .error e =>
      if e.isAlreadyExists then
        match ← store (.getVAppByName vdc.id name) with
        | some vapp => return vapp
        | none => throw e
      else
        measure (.recordCreated "vapp" .failure)
        throw e

/-- The row of a machine that another writer made first. -/
def rereadVm (vm : VirtualMachine) (vapp : VApp) : Attempt (Option Vm) := do
  match ← store (.getVmByNamespaceAndName vm.ns vm.name) with
  | some row => return some row
  | none => store (.getVmByVAppAndName vapp.id vm.name)

/-- A row for a machine in a vApp. -/
def createVm (vm : VirtualMachine) (vapp : VApp) : Attempt Vm := do
  match ← outcome (store (.createVm (vm.newVm vapp.id))) with
  | .ok row =>
    measure (.recordCreated "vm" .success)
    publish vm.reference {
      reason := "VmRecordCreated"
      action := "Resolve"
      note := some ("Created VM record in vApp " ++ vapp.name ++ " with status " ++
        vm.desiredStatus.word) }
    return row
  | .error e =>
    if e.isAlreadyExists then
      match ← rereadVm vm vapp with
      | some row => return row
      | none => throw e
    else
      measure (.recordCreated "vm" .failure)
      throw e

/-- The row that the vApp identity on the label leads to. -/
def findByLabel (vm : VirtualMachine) : Attempt (Option Vm) := do
  match vm.labelledVAppId? with
  | some vappId => store (.getVmByVAppAndName vappId vm.name)
  | none => return none

/-- The row that is there already. -/
def findVm (vm : VirtualMachine) : Attempt (Option Vm) := do
  match ← findByLabel vm with
  | some row => return some row
  | none => store (.getVmByNamespaceAndName vm.ns vm.name)

/-- Make a row for a machine that belongs to a vApp in a virtual datacenter. -/
def discover (vm : VirtualMachine) : Attempt Resolution := do
  match vm.labelledVAppName? with
  | none => return .notManaged "no_vapp_label"
  | some name =>
    match ← store (.getVdcByNamespace vm.ns) with
    | none => return .notManaged "no_vdc"
    | some vdc =>
      let vapp ← ensureVApp vm vdc name
      return .resolved (← createVm vm vapp) true

/-- The row of a machine, made where it is missing. -/
def resolve (vm : VirtualMachine) : Attempt Resolution := do
  match ← findVm vm with
  | some row => return .resolved row false
  | none => discover vm

/-- Put the vApp identity of the row on the label of the machine, unless it is there. A failure is
only counted; the next pass tries again. -/
def stampVAppId (vm : VirtualMachine) (row : Vm) : Attempt Unit := do
  let wanted := row.vappId.render
  if vm.metadata.label? Vocabulary.vappIdLabel = some wanted then return ()
  else
    match ← outcome
        (cluster (.setVirtualMachineLabel vm.ns vm.name Vocabulary.vappIdLabel wanted)) with
    | .ok _ => return ()
    | .error e => measure (.reconcileError Vocabulary.vmController e.category)

end Reconcile

end TenantCloud
