import TenantCloud.Api.Target
import TenantCloud.Effect.World

/-!
# Watches

A `Watch` is a subscription to the objects of a collection that carry given labels: it begins with
a list of them and goes on with a `Report` of each change. `World.serve` gives that list, unless a
fault lets it fail, in which case the list is asked for again after `backoff`.
-/

set_option autoImplicit false

namespace TenantCloud

/-- An object that watches report. -/
inductive WatchedObject
  | ns (o : Namespace)
  | vm (o : VirtualMachine)
  | vmi (o : VirtualMachineInstance)
  | template (o : TemplateInstance)
  deriving DecidableEq

namespace WatchedObject

/-- Where the object is kept. -/
def collection : WatchedObject → Api.Collection
  | ns _ => .namespaces
  | vm _ => .virtualMachines
  | vmi _ => .virtualMachineInstances
  | template _ => .templateInstances

def metadata : WatchedObject → Metadata
  | ns o => o.metadata
  | vm o => o.metadata
  | vmi o => o.metadata
  | template o => o.metadata

/-- The object has a name, not only the beginning of one. -/
def isNamed (o : WatchedObject) : Bool := o.metadata.name.isSome

/-- The version of an object that none was given to. -/
def firstVersion : String := "1"

/-- Metadata with a version. -/
def versioned (m : Metadata) : Metadata :=
  { m with resourceVersion := some (m.resourceVersion.getD firstVersion) }

/-- The object as a watch reports it, with a version. -/
def served : WatchedObject → WatchedObject
  | ns o => ns { o with metadata := versioned o.metadata }
  | vm o => vm { o with metadata := versioned o.metadata }
  | vmi o => vmi { o with metadata := versioned o.metadata }
  | template o => template { o with metadata := versioned o.metadata }

end WatchedObject

/-- What a watch says about an object. -/
structure Report where
  object : WatchedObject
  /-- The object was deleted; this is its last content. -/
  gone : Bool := false
  deriving DecidableEq

/-- A subscription to objects. -/
structure Watch where
  collection : Api.Collection
  /-- Labels that an object must carry. -/
  selector : Labels := ∅
  deriving DecidableEq

namespace Watch

/-- The watch is about an object. -/
def admits (w : Watch) (o : WatchedObject) : Bool :=
  o.collection = w.collection && w.selector.toList.all fun e => o.metadata.label? e.1 = some e.2

/-- The name under which faults know the list of a watch. -/
def listName (w : Watch) : String := "api_list_" ++ w.collection.plural

/-- The first and the longest pause before a list that failed is asked for again. -/
def firstPause : Nat := 800
def longestPause : Nat := 30000

/-- How many milliseconds pass before a list that failed `attempt` times before is asked for
again. The pause doubles until it is as long as it gets. -/
def backoff (attempt : Nat) : Nat := min (firstPause * Nat.pow 2 (min attempt 6)) longestPause

end Watch

/-- The objects of a collection that watches can be about. -/
def Cluster.watched (c : Cluster) (collection : Api.Collection) : List WatchedObject :=
  let objects : List WatchedObject :=
    c.namespaces.values.map .ns ++ c.vms.values.map .vm ++ c.instances.values.map .vmi ++
      c.templateInstances.values.map .template
  objects.filter (·.collection = collection)

/-- The list that a watch begins with, none where it fails. -/
def World.serve (w : World) (watch : Watch) : Option (List WatchedObject) × World :=
  let (action, faults) := Fault.decide watch.listName w.faults
  let w := { w with faults }
  match action with
  | some (.fail _) => (none, w)
  | some .miss => (some [], w)
  | none =>
    (some (((w.cluster.watched watch.collection).filter watch.admits).map (·.served)), w)

/-! ## Relations between objects -/

/-- The machine that an instance runs. -/
def VirtualMachineInstance.machine? (vmi : VirtualMachineInstance) : Option ObjectAddress := do
  let ns ← vmi.metadata.ns
  let owner ← (vmi.metadata.ownerReferences.getD []).find? fun o =>
    o.kind == VirtualMachine.kind.name && o.apiVersion.startsWith "kubevirt.io/"
  return ⟨some ns, owner.name⟩

/-- The template instance that a machine belongs to, by its vApp name. -/
def VirtualMachine.templateInstance? (vm : VirtualMachine) : Option ObjectAddress := do
  return ⟨some (← vm.metadata.ns), ← vm.metadata.filledLabel? Vocabulary.vappNameLabel⟩

/-- The row that a namespace belongs to, by a label. -/
def Namespace.owner? (o : Namespace) (idLabel : String) : Option Uuid :=
  (o.metadata.label? idLabel).bind Uuid.parse?

end TenantCloud
