import TenantCloud.Cluster.Basic
import TenantCloud.Store.Basic

/-!
# Calls and signals

A `Call` is one request of a pass to the store or the cluster, and `Call.Answer` the type of its
answer. A `Signal` goes out without an answer and never fails: an event attached to an object of
the cluster, or a measurement.
-/

set_option autoImplicit false

namespace TenantCloud

/-- A request to the store. -/
inductive StoreCall
  | getOrganization (id : Uuid)
  /-- All of them, deleted ones too. -/
  | listOrganizations
  | getVdc (id : Uuid)
  /-- The one that is not deleted and bound to the namespace. -/
  | getVdcByNamespace (ns : String)
  /-- All of them, deleted ones too. -/
  | listVdcs
  | getVApp (id : Uuid)
  | getVAppByName (vdcId : Uuid) (name : String)
  | createVApp (new : NewVApp)
  | updateVAppStatus (id : Uuid) (status : VAppStatus)
  | getVm (id : Uuid)
  | getVmByVAppAndName (vappId : Uuid) (vmName : String)
  | getVmByNamespaceAndName (ns vmName : String)
  | listVms
  | listVmsByVApp (vappId : Uuid)
  | createVm (new : NewVm)
  | updateVmStatus (id : Uuid) (status : String)
  | updateVmData (id : Uuid) (facts : VmFacts)
  deriving DecidableEq

/-- What the store answers; an update says whether there was a row. -/
abbrev StoreCall.Answer : StoreCall → Type
  | getOrganization _ => Option Organization
  | listOrganizations => List Organization
  | getVdc _ | getVdcByNamespace _ => Option Vdc
  | listVdcs => List Vdc
  | getVApp _ | getVAppByName .. => Option VApp
  | createVApp _ => VApp
  | updateVAppStatus .. => Bool
  | getVm _ | getVmByVAppAndName .. | getVmByNamespaceAndName .. => Option Vm
  | listVms | listVmsByVApp _ => List Vm
  | createVm _ => Vm
  | updateVmStatus .. | updateVmData .. => Bool

/-- A request to the cluster. -/
inductive ClusterCall
  | getNamespace (name : String)
  | listManagedNamespaces
  | createNamespace (object : Namespace)
  | patchNamespaceMetadata (name : String) (labels annotations : LabelPatch)
  | deleteNamespace (name : String)
  | getResourceQuota (ns name : String)
  | createResourceQuota (ns : String) (quota : ResourceQuota)
  /-- Give the quota exactly these hard limits. -/
  | replaceResourceQuotaHard (ns name : String) (hard : Dict String String)
  | createNetworkPolicy (ns : String) (policy : NetworkPolicy)
  | getVirtualMachine (ns name : String)
  | getVirtualMachineInstance (ns name : String)
  | setVirtualMachineLabel (ns name key value : String)
  | findTemplateInstanceByUid (uid : String)
  deriving DecidableEq

/-- What the cluster answers; a look-up of what is missing is no error. -/
abbrev ClusterCall.Answer : ClusterCall → Type
  | getNamespace _ => Option Namespace
  | listManagedNamespaces => List Namespace
  | getResourceQuota .. => Option ResourceQuota
  | getVirtualMachine .. => Option VirtualMachine
  | getVirtualMachineInstance .. => Option VirtualMachineInstance
  | findTemplateInstanceByUid _ => Option TemplateInstance
  | createNamespace _ | patchNamespaceMetadata .. | deleteNamespace _ | createResourceQuota ..
  | replaceResourceQuotaHard .. | createNetworkPolicy .. | setVirtualMachineLabel .. => Unit

/-- A request of a pass. -/
inductive Call
  | store (c : StoreCall)
  | cluster (c : ClusterCall)
  deriving DecidableEq

abbrev Call.Answer : Call → Type
  | store c => c.Answer
  | cluster c => c.Answer

/-! ## Names -/

namespace StoreCall

/-- The name under which a call is known. -/
def name : StoreCall → String
  | getOrganization _ => "get_organization"
  | listOrganizations => "list_organizations"
  | getVdc _ => "get_vdc"
  | getVdcByNamespace _ => "get_vdc_by_namespace"
  | listVdcs => "list_vdcs"
  | getVApp _ => "get_vapp"
  | getVAppByName .. => "get_vapp_by_name"
  | createVApp _ => "create_vapp"
  | updateVAppStatus .. => "update_vapp_status"
  | getVm _ => "get_vm"
  | getVmByVAppAndName .. => "get_vm_by_vapp_and_name"
  | getVmByNamespaceAndName .. => "get_vm_by_namespace_and_name"
  | listVms => "list_vms"
  | listVmsByVApp _ => "list_vms_by_vapp"
  | createVm _ => "create_vm"
  | updateVmStatus .. => "update_vm_status"
  | updateVmData .. => "update_vm_data"

/-- A call that may change a row. -/
def isWrite : StoreCall → Bool
  | createVApp _ | updateVAppStatus .. | createVm _ | updateVmStatus .. | updateVmData .. => true
  | _ => false

end StoreCall

namespace ClusterCall

/-- The name under which a call is known. -/
def name : ClusterCall → String
  | getNamespace _ => "get_namespace"
  | listManagedNamespaces => "list_managed_namespaces"
  | createNamespace _ => "create_namespace"
  | patchNamespaceMetadata .. => "patch_namespace_metadata"
  | deleteNamespace _ => "delete_namespace"
  | getResourceQuota .. => "get_resource_quota"
  | createResourceQuota .. => "create_resource_quota"
  | replaceResourceQuotaHard .. => "replace_resource_quota_hard"
  | createNetworkPolicy .. => "create_network_policy"
  | getVirtualMachine .. => "get_virtual_machine"
  | getVirtualMachineInstance .. => "get_virtual_machine_instance"
  | setVirtualMachineLabel .. => "set_virtual_machine_label"
  | findTemplateInstanceByUid _ => "find_template_instance_by_uid"

/-- A call that may change an object. -/
def isWrite : ClusterCall → Bool
  | createNamespace _ | patchNamespaceMetadata .. | deleteNamespace _ | createResourceQuota ..
  | replaceResourceQuotaHard .. | createNetworkPolicy .. | setVirtualMachineLabel .. => true
  | _ => false

end ClusterCall

namespace Call

def name : Call → String
  | store c => c.name
  | cluster c => c.name

/-- A call that may change a row or an object. -/
def isWrite : Call → Bool
  | store c => c.isWrite
  | cluster c => c.isWrite

/-- What a call answers that finds nothing and changes nothing: no row or object, no rows or
objects, no row to update, or plain success. A creation has no such answer. -/
def emptyAnswer? : (c : Call) → Option c.Answer
  | store (.getOrganization _) => some none
  | store .listOrganizations => some []
  | store (.getVdc _) => some none
  | store (.getVdcByNamespace _) => some none
  | store .listVdcs => some []
  | store (.getVApp _) => some none
  | store (.getVAppByName ..) => some none
  | store (.createVApp _) => none
  | store (.updateVAppStatus ..) => some false
  | store (.getVm _) => some none
  | store (.getVmByVAppAndName ..) => some none
  | store (.getVmByNamespaceAndName ..) => some none
  | store .listVms => some []
  | store (.listVmsByVApp _) => some []
  | store (.createVm _) => none
  | store (.updateVmStatus ..) => some false
  | store (.updateVmData ..) => some false
  | cluster (.getNamespace _) => some none
  | cluster .listManagedNamespaces => some []
  | cluster (.createNamespace _) => some ()
  | cluster (.patchNamespaceMetadata ..) => some ()
  | cluster (.deleteNamespace _) => some ()
  | cluster (.getResourceQuota ..) => some none
  | cluster (.createResourceQuota ..) => some ()
  | cluster (.replaceResourceQuotaHard ..) => some ()
  | cluster (.createNetworkPolicy ..) => some ()
  | cluster (.getVirtualMachine ..) => some none
  | cluster (.getVirtualMachineInstance ..) => some none
  | cluster (.setVirtualMachineLabel ..) => some ()
  | cluster (.findTemplateInstanceByUid _) => some none

end Call

/-! ## Signals -/

/-- A message for readers, attached to an object of the cluster. -/
structure Event where
  warning : Bool := false
  reason : String
  action : String
  note : Option String
  deriving DecidableEq

/-- How a counted operation went. -/
inductive Outcome
  | success | failure
  deriving DecidableEq

def Outcome.word : Outcome → String
  | success => "success"
  | failure => "failure"

/-- Something counted or timed. -/
inductive Measurement
  /-- A status write, and how many nanoseconds it took. -/
  | statusUpdate (controller : String) (outcome : Outcome) (elapsed : Nat)
  /-- A pass that failed for a category of reasons. -/
  | reconcileError (controller category : String)
  /-- A pass that wrote nothing on purpose. -/
  | skippedUpdate (controller reason : String)
  /-- An attempt to create a row for what was found in the cluster. -/
  | recordCreated (kind : String) (outcome : Outcome)
  | controllerHealth (controller : String) (healthy : Bool)
  deriving DecidableEq

/-- A short text for a measurement, without its time. -/
def Measurement.label : Measurement → String
  | statusUpdate c o _ => "status_update:" ++ c ++ ":" ++ o.word
  | reconcileError c k => "reconcile_error:" ++ c ++ ":" ++ k
  | skippedUpdate c r => "skipped:" ++ c ++ ":" ++ r
  | recordCreated k o => "created:" ++ k ++ ":" ++ o.word
  | controllerHealth c h => "health:" ++ c ++ ":" ++ (if h then "true" else "false")

/-- What goes out of a pass without an answer. -/
inductive Signal
  | event (object : ObjectReference) (event : Event)
  | metric (m : Measurement)
  deriving DecidableEq

end TenantCloud
