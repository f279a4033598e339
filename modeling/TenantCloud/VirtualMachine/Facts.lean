import TenantCloud.Object.VirtualMachine
import TenantCloud.Quantity
import TenantCloud.Rows.Vm
import TenantCloud.Vocabulary

/-!
# Facts of a machine

`VmFacts.observed` are the processors, memory and guest operating system that the cluster knows of
a machine: what its running instance reports, else what the machine declares. `VmFacts.change?` is
the change that these facts make to a row, which never takes a stored fact away.
-/

set_option autoImplicit false

namespace TenantCloud

/-- A text with something other than blanks in it. -/
def nonBlank? (s : Option String) : Option String := s.filter fun t => !Text.isBlankText t

/-- How a guest describes its system: its full name, else name and version, else the name, else
its identifier. -/
def GuestOsInfo.describe (i : GuestOsInfo) : Option String :=
  nonBlank? i.prettyName <|>
    (nonBlank? i.name).map (fun name =>
      match nonBlank? i.version with
      | some version => name ++ " " ++ version
      | none => name) <|>
    nonBlank? i.id

namespace VmFacts

/-- What stands for a guest operating system that a running instance does not report. -/
def unknownGuestOs : String := "Unknown"

/-- The processors: those of the running instance, else the declared ones. -/
def observedCpuCount (declared : Option DomainSpec) (live : Option InstanceStatus) : Option Nat :=
  (live.bind (·.cpuTopology)).bind (·.vcpus) <|> (declared.bind (·.cpu)).bind (·.vcpus)

/-- The guest operating system: what the guest reports, else what the template declares, else the
word for an unknown one where there is a running instance. -/
def observedGuestOs (vm : VirtualMachine) (vmi : Option VirtualMachineInstance) :
    Option String :=
  ((vmi.bind (·.status)).bind (·.guestOs)).bind (·.describe) <|>
    nonBlank? (vm.metadata.annotation? Vocabulary.guestOsAnnotation) <|>
    vmi.map fun _ => unknownGuestOs

section

variable {m : Type → Type} [Monad m] (words : Quantity.Words m)

/-- The memory: that of the running instance, else the declared one. -/
def observedMemory (declared : Option DomainSpec) (live : Option InstanceStatus) :
    m (Option Int) := do
  let mebibytes (raw : Option String) := raw.elim (pure none) words.mebibytes
  match ← mebibytes ((live.bind (·.memory)).bind (·.guestCurrent)) with
  | some mb => return some mb
  | none => mebibytes (declared.bind (·.declaredMemory))

/-- What a build reads of a machine. -/
def observedIn (vm : VirtualMachine) (vmi : Option VirtualMachineInstance) : m VmFacts := do
  let memory ← observedMemory words vm.spec.domain (vmi.bind (·.status))
  return {
    cpuCount := (observedCpuCount vm.spec.domain (vmi.bind (·.status))).map Int.ofNat
    memory := memory
    guestOs := observedGuestOs vm vmi }

end

/-- What the cluster knows of a machine. -/
def observed (vm : VirtualMachine) (vmi : Option VirtualMachineInstance) : VmFacts :=
  Id.run (observedIn .wrapping vm vmi)

/-- A positive number other than the stored one. -/
def numberChange? (stored seen : Option Int) : Option Int :=
  seen.filter fun n => 0 < n ∧ stored ≠ some n

/-- A text other than the stored one; the word for an unknown system replaces nothing. -/
def guestOsChange? (stored seen : Option String) : Option String :=
  seen.filter fun os => os ≠ "" ∧ stored ≠ some os ∧ ¬(os = unknownGuestOs ∧ stored.isSome)

/-- What `seen` changes about the facts that are stored, if it changes anything. -/
def change? (stored seen : VmFacts) : Option VmFacts :=
  let change : VmFacts := {
    cpuCount := numberChange? stored.cpuCount seen.cpuCount
    memory := numberChange? stored.memory seen.memory
    guestOs := guestOsChange? stored.guestOs seen.guestOs }
  if change.isEmpty then none else some change

end VmFacts

end TenantCloud
