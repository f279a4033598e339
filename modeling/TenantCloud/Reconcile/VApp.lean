import TenantCloud.Reconcile.VirtualMachine
import TenantCloud.VApp.Lifecycle

/-!
# Passes for vApps

`Reconcile.vapp` brings the status of a vApp to what its template instance and its machines make,
where the lifecycle permits the change. `Reconcile.templateInstanceDeleted` marks the vApp of a
template instance that is gone.
-/

set_option autoImplicit false

namespace TenantCloud

/-- What the status of a vApp depends on, from its template instance and the statuses of its
machines. -/
def TemplateInstance.signals (ti : TemplateInstance) (statuses : List String) : VAppSignals where
  failed := ti.hasFailed
  ready := ti.isReady
  hasVms := !statuses.isEmpty
  statuses := statuses

/-- What readers are told of a change of status: of a failure, what the instance says of it. -/
def TemplateInstance.changeNote (ti : TemplateInstance) (source target : VAppStatus) : String :=
  match target, ti.failureMessage with
  | .failed, some message => "vApp " ++ ti.name ++ " failed to instantiate: " ++ message
  | _, _ =>
    "vApp " ++ ti.name ++ " status changed from " ++ source.word ++ " to " ++ target.word

namespace Reconcile

open Attempt

/-- The vApp of the template instance with a name in a namespace. -/
def findVApp (ns name : String) : Attempt (Option VApp) := do
  match ← store (.getVdcByNamespace ns) with
  | some vdc => store (.getVAppByName vdc.id name)
  | none => return none

/-- Write the status of a vApp. -/
def persistVAppStatus (vapp : VApp) (status : VAppStatus) : Attempt Unit := do
  match ← timed (store (.updateVAppStatus vapp.id status)) with
  | (.ok _, elapsed) => measure (.statusUpdate Vocabulary.vappController .success elapsed)
  | (.error e, elapsed) =>
    measure (.statusUpdate Vocabulary.vappController .failure elapsed)
    throw e

/-- Bring a vApp to a status, where the lifecycle permits it. -/
def moveVApp (ti : TemplateInstance) (vapp : VApp) (desired : VAppStatus) : Attempt Unit := do
  if desired = vapp.status then measure (.skippedUpdate Vocabulary.vappController "unchanged")
  else if !vapp.status.mayBecome desired then
    measure (.skippedUpdate Vocabulary.vappController "illegal_transition")
  else
    persistVAppStatus vapp desired
    publish ti.reference {
      reason := "VAppStatusChanged"
      action := "Reconcile"
      note := some (ti.changeNote vapp.status desired) }

/-- One pass for the vApp of a template instance. -/
def vapp (ti : TemplateInstance) : Attempt Unit := do
  match ← findVApp ti.ns ti.name with
  | none => measure (.skippedUpdate Vocabulary.vappController "not_found")
  | some vapp =>
    let vms ← store (.listVmsByVApp vapp.id)
    moveVApp ti vapp (ti.signals (vms.map (·.status))).status

/-- The template instance with a name in a namespace is gone from the cluster. -/
def templateInstanceDeleted (ns name : String) : Attempt Unit := do
  match ← findVApp ns name with
  | none => measure (.skippedUpdate Vocabulary.vappController "not_found")
  | some vapp =>
    if vapp.status = .deleted then
      measure (.skippedUpdate Vocabulary.vappController "unchanged")
    else persistVAppStatus vapp .deleted

end Reconcile

end TenantCloud
