import TenantCloud.Json.Wire

/-!
# Rows of virtual machines

A `Vm` is the record of one machine of the cluster: where it is, which vApp it belongs to, its
status and the facts observed of it. The status is free text, for which `VmStatus` has the words
that the controllers write.
-/

set_option autoImplicit false

namespace TenantCloud

/-- The statuses that the controllers know. -/
inductive VmStatus
  | poweredOn | poweredOff | poweringOn | poweringOff | starting | stopped | suspended
  | deleting | deleted | error | unresolved | unknown
  deriving DecidableEq

namespace VmStatus

/-- The word for a status. -/
def word : VmStatus → String
  | poweredOn => "POWERED_ON"
  | poweredOff => "POWERED_OFF"
  | poweringOn => "POWERING_ON"
  | poweringOff => "POWERING_OFF"
  | starting => "STARTING"
  | stopped => "STOPPED"
  | suspended => "SUSPENDED"
  | deleting => "DELETING"
  | deleted => "DELETED"
  | error => "ERROR"
  | unresolved => "UNRESOLVED"
  | unknown => "UNKNOWN"

instance : ToString VmStatus := ⟨word⟩

theorem word_injective {s t : VmStatus} (h : s.word = t.word) : s = t := by
  cases s <;> cases t <;> first | rfl | exact absurd h (by decide)

end VmStatus

/-- The row of a virtual machine. -/
structure Vm where
  id : Uuid
  /-- The name shown to people. -/
  name : String
  /-- The name of the machine in the cluster. -/
  vmName : String
  ns : String
  vappId : Uuid
  status : String
  cpuCount : Option Int
  /-- Mebibytes. -/
  memory : Option Int
  guestOs : Option String
  createdAt : Timestamp
  updatedAt : Timestamp
  deriving DecidableEq

/-- What a new row of a virtual machine is made from. -/
structure NewVm where
  name : String
  vmName : String
  ns : String
  vappId : Uuid
  status : String
  deriving DecidableEq

/-- Facts of a machine: processors, mebibytes of memory, guest operating system. As an observation,
an absent fact is not known; as a change to a row, it stays as it is. -/
structure VmFacts where
  cpuCount : Option Int := none
  memory : Option Int := none
  guestOs : Option String := none
  deriving DecidableEq

namespace VmFacts

/-- No fact is present. -/
def isEmpty (f : VmFacts) : Bool := f.cpuCount.isNone && f.memory.isNone && f.guestOs.isNone

end VmFacts

namespace Vm

/-- The facts that a row holds. -/
def facts (vm : Vm) : VmFacts := ⟨vm.cpuCount, vm.memory, vm.guestOs⟩

/-- A row with the facts that are present in `f`; the others stay. -/
def withFacts (vm : Vm) (f : VmFacts) : Vm :=
  { vm with
    cpuCount := f.cpuCount <|> vm.cpuCount
    memory := f.memory <|> vm.memory
    guestOs := f.guestOs <|> vm.guestOs }

/-- The row of the machine with this name in this namespace. -/
def isAt (vm : Vm) (ns vmName : String) : Bool := vm.ns == ns && vm.vmName == vmName

/-- The row of the machine with this name in this vApp. -/
def isIn (vm : Vm) (vappId : Uuid) (vmName : String) : Bool :=
  vm.vappId == vappId && vm.vmName == vmName

end Vm

instance : Wire Vm where
  read? j := do
    let ms ← j.fields? ["id", "name", "vm_name", "namespace", "vapp_id", "status", "cpu_count",
      "memory_mb", "guest_os", "created_at", "updated_at"]
    return {
      id := ← ms.required? "id"
      name := ← ms.required? "name"
      vmName := ← ms.required? "vm_name"
      ns := ← ms.required? "namespace"
      vappId := ← ms.required? "vapp_id"
      status := ← ms.required? "status"
      cpuCount := ← ms.optionalWith? "cpu_count" Json.int32?
      memory := ← ms.optionalWith? "memory_mb" Json.int64?
      guestOs := ← ms.optional? "guest_os"
      createdAt := ← ms.required? "created_at"
      updatedAt := ← ms.required? "updated_at" }
  write v := .record [
    .mem "id" v.id, .mem "name" v.name, .mem "vm_name" v.vmName, .mem "namespace" v.ns,
    .mem "vapp_id" v.vappId, .mem "status" v.status, .nullableInt "cpu_count" v.cpuCount,
    .nullableInt "memory_mb" v.memory, .nullable "guest_os" v.guestOs,
    .mem "created_at" v.createdAt, .mem "updated_at" v.updatedAt]

end TenantCloud
