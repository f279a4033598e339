import TenantCloud.Cluster.ObjectKey
import TenantCloud.Error
import TenantCloud.Object.Namespace
import TenantCloud.Object.NetworkPolicy
import TenantCloud.Object.Patch
import TenantCloud.Object.ResourceQuota
import TenantCloud.Object.TemplateInstance
import TenantCloud.Object.VirtualMachine
import TenantCloud.Vocabulary

/-!
# The cluster

A `Cluster` holds the objects that the controllers read and write, each kind in key order.
Creating what is there already changes nothing, deleting a namespace takes its quotas and policies
along, and a change to an object that is missing fails.
-/

set_option autoImplicit false

namespace TenantCloud

/-- The objects of a cluster. -/
structure Cluster where
  namespaces : Dict String Namespace := ∅
  quotas : Dict ObjectKey ResourceQuota := ∅
  policies : Dict ObjectKey NetworkPolicy := ∅
  vms : Dict ObjectKey VirtualMachine := ∅
  instances : Dict ObjectKey VirtualMachineInstance := ∅
  templateInstances : Dict ObjectKey TemplateInstance := ∅
  deriving DecidableEq, Inhabited

namespace Cluster

/-- The reply to a request for an object that is missing. -/
def missing (what : String) : Error :=
  .api { code := ApiFailure.notFoundCode, message := what ++ " not found", reason := "NotFound" }

/-- `d` with `v` at `k`, unless there is something already. -/
def create {κ ν : Type} [Ord κ] [Std.TransOrd κ] [Std.LawfulEqOrd κ] (d : Dict κ ν) (k : κ)
    (v : ν) : Dict κ ν :=
  if d.contains k then d else d.insert k v

/-- `d` with the value at `k` changed; a missing one is an error. -/
def change {κ ν : Type} [Ord κ] [Std.TransOrd κ] [Std.LawfulEqOrd κ] (d : Dict κ ν) (k : κ)
    (what : String) (f : ν → ν) : Result (Dict κ ν) :=
  match d.get? k with
  | some v => .ok (d.insert k (f v))
  | none => .error (missing what)

/-! ## Namespaces -/

/-- A namespace that the controllers made. -/
def isManaged (ns : Namespace) : Bool :=
  ns.labels.get? Vocabulary.managedByLabel == some Vocabulary.managedByValue

/-- The namespaces that the controllers made, in name order. -/
def managedNamespaces (c : Cluster) : List Namespace := c.namespaces.values.filter isManaged

def createNamespace (c : Cluster) (ns : Namespace) : Cluster :=
  { c with namespaces := create c.namespaces ns.name ns }

def patchNamespace (c : Cluster) (name : String) (labels annotations : LabelPatch) :
    Result Cluster := do
  let namespaces ← change c.namespaces name "namespace" fun ns =>
    { ns with metadata := ns.metadata.patch labels annotations }
  return { c with namespaces }

def deleteNamespace (c : Cluster) (name : String) : Cluster :=
  { c with
    namespaces := c.namespaces.erase name
    quotas := c.quotas.filter fun k _ => k.ns != name
    policies := c.policies.filter fun k _ => k.ns != name }

/-! ## Quotas and policies -/

def createQuota (c : Cluster) (ns : String) (q : ResourceQuota) : Cluster :=
  { c with quotas := create c.quotas ⟨ns, q.metadata.objectName⟩ q }

/-- Give a quota exactly these hard limits. -/
def replaceQuotaHard (c : Cluster) (ns name : String) (hard : Dict String String) :
    Result Cluster := do
  let quotas ← change c.quotas ⟨ns, name⟩ "quota" (·.setHard hard)
  return { c with quotas }

def createPolicy (c : Cluster) (ns : String) (p : NetworkPolicy) : Cluster :=
  { c with policies := create c.policies ⟨ns, p.metadata.objectName⟩ p }

/-! ## Machines and template instances -/

def setVmLabel (c : Cluster) (ns name key value : String) : Result Cluster := do
  let vms ← change c.vms ⟨ns, name⟩ "vm" fun vm =>
    { vm with metadata := vm.metadata.setLabel key value }
  return { c with vms }

/-- The first template instance with a uid, in key order. -/
def templateInstanceWithUid? (c : Cluster) (uid : String) : Option TemplateInstance :=
  c.templateInstances.values.find? (·.metadata.uid == some uid)

end Cluster

end TenantCloud
