import TenantCloud.Object.VirtualMachine
import TenantCloud.Rows.Vm

/-!
# The status of a machine

`LifecycleSignal.ofMachine` reads from a machine of the cluster the three things its status depends
on, and `LifecycleSignal.status` is the status that they make. Every combination makes one.
-/

set_option autoImplicit false

namespace TenantCloud

/-- What the status of a machine depends on. -/
structure LifecycleSignal where
  pendingDeletion : Bool
  printableStatus : Option PrintableStatus
  /-- Whether the machine is meant to run, where it says so. -/
  runIntent : Option Bool
  deriving DecidableEq

/-- Whether a machine is meant to run. The plain flag wins over the strategy. -/
def VirtualMachineSpec.runIntent (s : VirtualMachineSpec) : Option Bool :=
  match s.running with
  | some running => some running
  | none =>
    match s.runStrategy with
    | some "Always" | some "RerunOnFailure" | some "Once" => some true
    | some "Halted" | some "Manual" => some false
    | _ => none

namespace PrintableStatus

/-- The status of a machine that the cluster sums up like this. -/
def vmStatus : PrintableStatus → VmStatus
  | running | migrating => .poweredOn
  | stopped => .poweredOff
  | starting => .poweringOn
  | stopping | terminating => .poweringOff
  | provisioning | waitingForVolumeBinding | waitingForReceiver => .starting
  | paused => .suspended
  | unknown => .unknown
  | crashLoopBackOff | errorUnschedulable | errImagePull | imagePullBackOff | errorPvcNotFound
  | errorDataVolumeNotFound | dataVolumeError => .error

end PrintableStatus

namespace LifecycleSignal

/-- The signal of a machine of the cluster. -/
def ofMachine (vm : VirtualMachine) : LifecycleSignal where
  pendingDeletion := vm.metadata.deletionTimestamp.isSome
  printableStatus := vm.status.bind (·.printableStatus)
  runIntent := vm.spec.runIntent

/-- The status that a signal makes: a pending deletion counts first, then the summary, and without
one the intent. -/
def status (s : LifecycleSignal) : VmStatus :=
  if s.pendingDeletion then .deleting
  else
    match s.printableStatus with
    | some p => p.vmStatus
    | none => if s.runIntent = some true then .starting else .stopped

end LifecycleSignal

/-- The status of a machine of the cluster. -/
def VirtualMachine.desiredStatus (vm : VirtualMachine) : VmStatus :=
  (LifecycleSignal.ofMachine vm).status

end TenantCloud
