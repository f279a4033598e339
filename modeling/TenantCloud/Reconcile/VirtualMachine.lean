import TenantCloud.Reconcile.Binding
import TenantCloud.Settings
import TenantCloud.VirtualMachine.Facts

/-!
# Passes for machines

`Reconcile.virtualMachine` brings the row of a machine to what the cluster knows: its status, then
its facts, each on its own, so that one may fail and the other still counts.
`Reconcile.vmDeleted` marks the row of a machine that is gone, and `Reconcile.sweep` does so for
every row whose machine is missing.
-/

set_option autoImplicit false

namespace TenantCloud

/-- The row was updated less than `window` seconds before `now`; an update in the future counts as
one at this moment. -/
def Vm.isFresh (vm : Vm) (now : Timestamp) (window : Nat) : Bool :=
  now.nanosSince vm.updatedAt < window * Timestamp.billion

namespace Reconcile

open Attempt

/-- The outcome of an attempt and the nanoseconds it took. -/
def timed {α : Type} (a : Attempt α) : Attempt (Result α × Nat) := do
  let started ← clock
  let r ← outcome a
  let ended ← clock
  return (r, ended.nanosSince started)

/-! ## Status -/

/-- Write the status of a machine to its row, unless it is there and was written lately. -/
def vmStatus (settings : Settings) (vm : VirtualMachine) (row : Vm) : Attempt Unit := do
  let desired := vm.desiredStatus.word
  let now ← clock
  if row.status = desired ∧ row.isFresh now settings.staleness then
    measure (.skippedUpdate Vocabulary.vmController "unchanged")
  else
    match ← timed (store (.updateVmStatus row.id desired)) with
    | (.ok true, elapsed) =>
      measure (.statusUpdate Vocabulary.vmController .success elapsed)
      if row.status ≠ desired then
        publish vm.reference {
          reason := "StatusChanged"
          action := "Reconcile"
          note := some ("VM status changed from " ++ row.status ++ " to " ++ desired) }
    | (.ok false, _) => measure (.skippedUpdate Vocabulary.vmController "row_gone")
    | (.error e, elapsed) =>
      measure (.statusUpdate Vocabulary.vmController .failure elapsed)
      publish vm.reference {
        warning := true
        reason := "StatusUpdateFailed"
        action := "Reconcile"
        note := some ("Failed to persist status " ++ desired ++ ": " ++ e.message) }
      throw e

/-! ## Facts -/

/-- Write the facts of a machine that differ from those on its row. -/
def vmFacts (vm : VirtualMachine) (row : Vm) : Attempt Unit := do
  let vmi ← cluster (.getVirtualMachineInstance vm.ns vm.name)
  match row.facts.change? (.observed vm vmi) with
  | none => return ()
  | some change =>
    match ← outcome (store (.updateVmData row.id change)) with
    | .ok true => return ()
    | .ok false => measure (.skippedUpdate Vocabulary.vmDataController "row_gone")
    | .error e =>
      measure (.reconcileError Vocabulary.vmDataController e.category)
      publish vm.reference {
        warning := true
        reason := "DataUpdateFailed"
        action := "Reconcile"
        note := some ("Failed to persist CPU/memory/guest OS: " ++ e.message) }
      throw e

/-! ## The pass -/

/-- Write status and facts to the row of a machine. The failure of the status counts first. -/
def vmRow (settings : Settings) (vm : VirtualMachine) (row : Vm) : Attempt Unit := do
  stampVAppId vm row
  let status ← outcome (vmStatus settings vm row)
  let facts ← outcome (vmFacts vm row)
  ofResult status
  ofResult facts

/-- The machine with the name of its vApp on the label, if one was derived. -/
def withVAppName (vm : VirtualMachine) : Option String → VirtualMachine
  | some name => { vm with metadata := vm.metadata.setLabel Vocabulary.vappNameLabel name }
  | none => vm

/-- One pass for a machine. -/
def virtualMachine (settings : Settings) (vm : VirtualMachine) : Attempt Unit := do
  let vm := withVAppName vm (← deriveVAppName vm)
  match ← resolve vm with
  | .resolved row _ => vmRow settings vm row
  | .notManaged reason => measure (.skippedUpdate Vocabulary.vmController reason)

/-! ## Deletion -/

/-- Mark a row as deleted. -/
def markVmDeleted (row : Vm) : Attempt Unit := do
  match ← timed (store (.updateVmStatus row.id VmStatus.deleted.word)) with
  | (.ok _, elapsed) => measure (.statusUpdate Vocabulary.vmController .success elapsed)
  | (.error e, elapsed) =>
    measure (.statusUpdate Vocabulary.vmController .failure elapsed)
    throw e

/-- The machine with a name in a namespace is gone from the cluster. Its labels are gone with it,
so its row is looked up by namespace. -/
def vmDeleted (ns name : String) : Attempt Unit := do
  match ← store (.getVmByNamespaceAndName ns name) with
  | none => measure (.skippedUpdate Vocabulary.vmController "not_found")
  | some row =>
    if row.status = VmStatus.deleted.word then
      measure (.skippedUpdate Vocabulary.vmController "unchanged")
    else markVmDeleted row

/-- Mark those of these rows that are not deleted and whose machine is missing, and count them. -/
def sweepEach : List Vm → Attempt Nat
  | [] => return 0
  | row :: rest => do
    if row.status = VmStatus.deleted.word then sweepEach rest
    else
      match ← cluster (.getVirtualMachine row.ns row.vmName) with
      | some _ => sweepEach rest
      | none =>
        vmDeleted row.ns row.vmName
        return (← sweepEach rest) + 1

/-- Mark every row that is not deleted and whose machine is missing, and count them. -/
def sweep : Attempt Nat := do sweepEach (← store .listVms)

end Reconcile

end TenantCloud
