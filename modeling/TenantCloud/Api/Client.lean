import TenantCloud.Api.Exchange
import TenantCloud.Effect.Call

/-!
# A client of the cluster's API

`perform` answers each call of the cluster by an exchange with its API. A look-up of what the API
says is not there finds nothing, a creation of what is there already succeeds, and so does the
removal of what is not there. `replaceHard` reads a quota and writes it back with other limits;
the version that was read goes along, so a change in between is refused and not overwritten.
-/

set_option autoImplicit false

namespace TenantCloud.Api

/-- The reason the API gives when an object is not there. -/
def notFoundReason : String := "NotFound"

/-- One object. -/
def get (α : Type) [Wire α] (c : Collection) (ns : Option String) (name : String) : Action α :=
  .send (Request.get? c ns name) (Reply.object α)

/-- One object, or none where the API says that it is not there. -/
def find (α : Type) [Wire α] (c : Collection) (ns : Option String) (name : String) :
    Action (Option α) :=
  .excusing (·.reason = notFoundReason) none (some <$> get α c ns name)

/-- The objects of a collection. -/
def list (α : Type) [Wire α] (c : Collection) (selector : Option String) : Action (List α) :=
  .send (Request.list? c selector) (Reply.items α)

/-- Create an object, unless it is there already. -/
def create {α : Type} [Wire α] (c : Collection) (ns : Option String) (object : α) : Action Unit :=
  .excusing (·.code = ApiFailure.conflictCode) ()
    (.send (Request.create? c ns (Wire.write object)) fun r => (r.object α).map fun _ => ())

/-- Set members of an object. -/
def patch (α : Type) [Wire α] (c : Collection) (ns : Option String) (name : String)
    (members : Json) : Action Unit :=
  .send (Request.patch? c ns name members) fun r => (r.object α).map fun _ => ()

/-- Write a new content of an object. -/
def replace {α : Type} [Wire α] (c : Collection) (ns : Option String) (name writer : String)
    (object : α) : Action Unit :=
  .send (Request.replace? c ns name writer (Wire.write object))
    fun r => (r.object α).map fun _ => ()

/-- Remove an object, unless it is gone already. -/
def delete (α : Type) [Wire α] (c : Collection) (ns : Option String) (name : String) :
    Action Unit :=
  .excusing (·.code = ApiFailure.notFoundCode) ()
    (.send (Request.delete? c ns name) (Reply.deletion α))

/-- Labels and annotations to be set, or taken away, in the members of an object. -/
def metadataPatch (labels annotations : LabelPatch) : Json :=
  .obj [("metadata", .obj [("labels", labels.write), ("annotations", annotations.write)])]

/-- A label to be set, in the members of an object. -/
def labelPatch (key value : String) : Json :=
  .obj [("metadata", .obj [("labels", (LabelPatch.set key value).write)])]

/-- Give a quota exactly these hard limits and keep the rest of it as it was read. -/
def replaceHard (ns name : String) (hard : Dict String String) : Action Unit := do
  let quota ← get ResourceQuota .resourceQuotas (some ns) name
  replace .resourceQuotas (some ns) name Vocabulary.fieldManager (quota.setHard hard)

/-- The first template instance with a uid. -/
def templateInstanceWithUid (uid : String) : Action (Option TemplateInstance) := do
  let all ← list TemplateInstance .templateInstances none
  return all.find? (·.metadata.uid = some uid)

/-- Answer a call of the cluster. -/
def perform : (c : ClusterCall) → Action c.Answer
  | .getNamespace name => find Namespace .namespaces none name
  | .listManagedNamespaces => list Namespace .namespaces (some Vocabulary.managedSelector)
  | .createNamespace object => create .namespaces none object
  | .patchNamespaceMetadata name labels annotations =>
    patch Namespace .namespaces none name (metadataPatch labels annotations)
  | .deleteNamespace name => delete Namespace .namespaces none name
  | .getResourceQuota ns name => find ResourceQuota .resourceQuotas (some ns) name
  | .createResourceQuota ns quota => create .resourceQuotas (some ns) quota
  | .replaceResourceQuotaHard ns name hard => replaceHard ns name hard
  | .createNetworkPolicy ns policy => create .networkPolicies (some ns) policy
  | .getVirtualMachine ns name => find VirtualMachine .virtualMachines (some ns) name
  | .getVirtualMachineInstance ns name =>
    find VirtualMachineInstance .virtualMachineInstances (some ns) name
  | .setVirtualMachineLabel ns name key value =>
    patch VirtualMachine .virtualMachines (some ns) name (labelPatch key value)
  | .findTemplateInstanceByUid uid => templateInstanceWithUid uid

end TenantCloud.Api
