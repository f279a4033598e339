import TenantCloud.Object.Metadata

/-!
# Virtual machines of the cluster

A `VirtualMachine` is what a machine is meant to be, a `VirtualMachineInstance` one run of it. Only
the fields that the controllers read are kept. `CpuTopology.vcpus` is the count of processors that
a topology makes, `DomainSpec.declaredMemory` the text of the memory that a machine asks for.
-/

set_option autoImplicit false

namespace TenantCloud

/-- Processors as cores per socket, sockets and threads per core. -/
structure CpuTopology where
  cores : Option Nat
  sockets : Option Nat
  threads : Option Nat
  deriving DecidableEq

instance : Wire CpuTopology where
  read? j := do
    let ms ← j.fields? ["cores", "sockets", "threads"]
    return {
      cores := ← ms.optionalWith? "cores" (Json.nat? 32)
      sockets := ← ms.optionalWith? "sockets" (Json.nat? 32)
      threads := ← ms.optionalWith? "threads" (Json.nat? 32) }
  write t := .record [
    .optInt "cores" (t.cores.map Int.ofNat), .optInt "sockets" (t.sockets.map Int.ofNat),
    .optInt "threads" (t.threads.map Int.ofNat)]

namespace CpuTopology

/-- The largest count of processors that a row can hold. -/
def maxCount : Nat := Nat.pow 2 31 - 1

/-- A number that a row can hold. -/
def bounded? (n : Nat) : Option Nat := if n ≤ maxCount then some n else none

/-- What a field contributes: a missing or zero one counts as 1. -/
def factor (field : Option Nat) : Nat := (field.filter (0 < ·)).getD 1

/-- The product of the three fields. Nothing is known where no field is set, and nothing can be
stored where a factor or a product on the way is too large. -/
def vcpus (t : CpuTopology) : Option Nat := do
  guard (t.cores.isSome || t.sockets.isSome || t.threads.isSome)
  let cores ← bounded? (factor t.cores)
  let sockets ← bounded? (factor t.sockets)
  let pair ← bounded? (cores * sockets)
  let threads ← bounded? (factor t.threads)
  bounded? (pair * threads)

end CpuTopology

/-- Memory that the guest is to see. -/
structure DomainMemory where
  guest : Option String
  deriving DecidableEq

instance : Wire DomainMemory where
  read? j := do return { guest := ← (← j.fields? ["guest"]).optional? "guest" }
  write m := .record [.opt "guest" m.guest]

/-- Resources that a machine asks the cluster for. -/
structure DomainResources where
  requests : Option (Dict String String)
  deriving DecidableEq

instance : Wire DomainResources where
  read? j := do return { requests := ← (← j.fields? ["requests"]).optional? "requests" }
  write r := .record [.opt "requests" r.requests]

/-- The hardware of a machine. -/
structure DomainSpec where
  cpu : Option CpuTopology
  memory : Option DomainMemory
  resources : Option DomainResources
  deriving DecidableEq

instance : Wire DomainSpec where
  read? j := do
    let ms ← j.fields? ["cpu", "memory", "resources"]
    return {
      cpu := ← ms.optional? "cpu"
      memory := ← ms.optional? "memory"
      resources := ← ms.optional? "resources" }
  write d := .record [.opt "cpu" d.cpu, .opt "memory" d.memory, .opt "resources" d.resources]

/-- The declared memory of the guest, else the memory that is asked for. -/
def DomainSpec.declaredMemory (d : DomainSpec) : Option String :=
  d.memory.bind (·.guest) <|>
    d.resources.bind fun r => r.requests.bind fun q => q.get? "memory"

/-! ## Instances -/

/-- What one run of a machine is meant to be. -/
structure InstanceSpec where
  domain : Option DomainSpec
  deriving DecidableEq

instance : Wire InstanceSpec where
  read? j := do return { domain := ← (← j.fields? ["domain"]).optional? "domain" }
  write s := .record [.opt "domain" s.domain]

/-- Memory of a running machine. -/
structure MemoryStatus where
  guestCurrent : Option String
  guestAtBoot : Option String
  deriving DecidableEq

instance : Wire MemoryStatus where
  read? j := do
    let ms ← j.fields? ["guestCurrent", "guestAtBoot"]
    return {
      guestCurrent := ← ms.optional? "guestCurrent"
      guestAtBoot := ← ms.optional? "guestAtBoot" }
  write m := .record [.opt "guestCurrent" m.guestCurrent, .opt "guestAtBoot" m.guestAtBoot]

/-- What the guest reports of its operating system. -/
structure GuestOsInfo where
  id : Option String
  name : Option String
  prettyName : Option String
  version : Option String
  deriving DecidableEq

instance : Wire GuestOsInfo where
  read? j := do
    let ms ← j.fields? ["id", "name", "prettyName", "version"]
    return {
      id := ← ms.optional? "id"
      name := ← ms.optional? "name"
      prettyName := ← ms.optional? "prettyName"
      version := ← ms.optional? "version" }
  write i := .record [
    .opt "id" i.id, .opt "name" i.name, .opt "prettyName" i.prettyName, .opt "version" i.version]

/-- What one run of a machine was seen to be. -/
structure InstanceStatus where
  phase : Option String
  cpuTopology : Option CpuTopology
  memory : Option MemoryStatus
  guestOs : Option GuestOsInfo
  deriving DecidableEq

instance : Wire InstanceStatus where
  read? j := do
    let ms ← j.fields? ["phase", "currentCPUTopology", "memory", "guestOSInfo"]
    return {
      phase := ← ms.optional? "phase"
      cpuTopology := ← ms.optional? "currentCPUTopology"
      memory := ← ms.optional? "memory"
      guestOs := ← ms.optional? "guestOSInfo" }
  write s := .record [
    .opt "phase" s.phase, .opt "currentCPUTopology" s.cpuTopology, .opt "memory" s.memory,
    .opt "guestOSInfo" s.guestOs]

/-- One run of a virtual machine. -/
structure VirtualMachineInstance where
  metadata : Metadata
  spec : InstanceSpec
  status : Option InstanceStatus
  deriving DecidableEq

def VirtualMachineInstance.kind : ObjectKind := ⟨"kubevirt.io/v1", "VirtualMachineInstance"⟩

instance : Wire VirtualMachineInstance where
  read? j := do
    let ms ← j.allFields? ["metadata", "spec", "status"]
    return {
      metadata := ← ms.required? "metadata"
      spec := ← ms.required? "spec"
      status := ← ms.optional? "status" }
  write v := VirtualMachineInstance.kind.write [
    .mem "metadata" v.metadata, .mem "spec" v.spec, .opt "status" v.status]

/-! ## Machines -/

/-- What the runs of a machine are made from. -/
structure InstanceTemplate where
  spec : Option InstanceSpec
  deriving DecidableEq

instance : Wire InstanceTemplate where
  read? j := do return { spec := ← (← j.fields? ["spec"]).optional? "spec" }
  write t := .record [.opt "spec" t.spec]

/-- What a machine is meant to be. -/
structure VirtualMachineSpec where
  running : Option Bool
  runStrategy : Option String
  template : Option InstanceTemplate
  deriving DecidableEq

instance : Wire VirtualMachineSpec where
  read? j := do
    let ms ← j.fields? ["running", "runStrategy", "template"]
    return {
      running := ← ms.optional? "running"
      runStrategy := ← ms.optional? "runStrategy"
      template := ← ms.optional? "template" }
  write s := .record [
    .opt "running" s.running, .opt "runStrategy" s.runStrategy, .opt "template" s.template]

/-- The hardware that a machine declares. -/
def VirtualMachineSpec.domain (s : VirtualMachineSpec) : Option DomainSpec :=
  s.template.bind fun t => t.spec.bind (·.domain)

/-- The lifecycle of a machine as the cluster sums it up. -/
inductive PrintableStatus
  | running | stopped | starting | stopping | terminating | provisioning
  | waitingForVolumeBinding | waitingForReceiver | paused | migrating | crashLoopBackOff
  | errorUnschedulable | errImagePull | imagePullBackOff | errorPvcNotFound
  | errorDataVolumeNotFound | dataVolumeError | unknown
  deriving DecidableEq

namespace PrintableStatus

/-- Every summary, in the order of their listing. -/
def all : List PrintableStatus := [
  running, stopped, starting, stopping, terminating, provisioning, waitingForVolumeBinding,
  waitingForReceiver, paused, migrating, crashLoopBackOff, errorUnschedulable, errImagePull,
  imagePullBackOff, errorPvcNotFound, errorDataVolumeNotFound, dataVolumeError, unknown]

/-- The word for a summary. -/
def word : PrintableStatus → String
  | running => "Running"
  | stopped => "Stopped"
  | starting => "Starting"
  | stopping => "Stopping"
  | terminating => "Terminating"
  | provisioning => "Provisioning"
  | waitingForVolumeBinding => "WaitingForVolumeBinding"
  | waitingForReceiver => "WaitingForReceiver"
  | paused => "Paused"
  | migrating => "Migrating"
  | crashLoopBackOff => "CrashLoopBackOff"
  | errorUnschedulable => "ErrorUnschedulable"
  | errImagePull => "ErrImagePull"
  | imagePullBackOff => "ImagePullBackOff"
  | errorPvcNotFound => "ErrorPvcNotFound"
  | errorDataVolumeNotFound => "ErrorDataVolumeNotFound"
  | dataVolumeError => "DataVolumeError"
  | unknown => "Unknown"

/-- The summary with a word; a word that is not known is an unknown status. -/
def ofWord (w : String) : PrintableStatus := (all.find? (·.word == w)).getD unknown

theorem mem_all (s : PrintableStatus) : s ∈ all := by cases s <;> decide

theorem ofWord_word (s : PrintableStatus) : ofWord s.word = s := by cases s <;> decide

end PrintableStatus

instance : Wire PrintableStatus := ⟨fun j => j.choice?.map .ofWord, fun s => .str s.word⟩

/-- What a machine was seen to be. -/
structure VirtualMachineStatus where
  printableStatus : Option PrintableStatus
  ready : Option Bool
  deriving DecidableEq

instance : Wire VirtualMachineStatus where
  read? j := do
    let ms ← j.fields? ["printableStatus", "ready"]
    return {
      printableStatus := ← ms.optional? "printableStatus"
      ready := ← ms.optional? "ready" }
  write s := .record [.opt "printableStatus" s.printableStatus, .opt "ready" s.ready]

/-- A virtual machine of the cluster. -/
structure VirtualMachine where
  metadata : Metadata
  spec : VirtualMachineSpec
  status : Option VirtualMachineStatus
  deriving DecidableEq

namespace VirtualMachine

def kind : ObjectKind := ⟨"kubevirt.io/v1", "VirtualMachine"⟩

def name (vm : VirtualMachine) : String := vm.metadata.objectName
def ns (vm : VirtualMachine) : String := vm.metadata.objectNamespace
def reference (vm : VirtualMachine) : ObjectReference := kind.reference vm.metadata

end VirtualMachine

instance : Wire VirtualMachine where
  read? j := do
    let ms ← j.allFields? ["metadata", "spec", "status"]
    return {
      metadata := ← ms.required? "metadata"
      spec := ← ms.required? "spec"
      status := ← ms.optional? "status" }
  write v := VirtualMachine.kind.write [
    .mem "metadata" v.metadata, .mem "spec" v.spec, .opt "status" v.status]

end TenantCloud
