import TenantCloud.Data.Dict

/-!
# Names that the controllers share

Keys of the labels and annotations that tie cluster objects to rows, and the names of the objects
that a virtual datacenter owns inside its namespace.
-/

set_option autoImplicit false

namespace TenantCloud.Vocabulary

/-! ## Labels -/

/-- Who made an object. -/
def managedByLabel : String := "ssvirt.io/managed-by"
def managedByValue : String := "ssvirt"

/-- What a namespace stands for. -/
def kindLabel : String := "ssvirt.io/kind"
def vdcKind : String := "vdc"
def organizationKind : String := "organization"

def vdcIdLabel : String := "ssvirt.io/vdc-id"
def organizationIdLabel : String := "ssvirt.io/organization-id"

/-- The identity of the vApp that a machine belongs to. -/
def vappIdLabel : String := "ssvirt.io/vapp-id"

/-- The name of the vApp that a machine belongs to. -/
def vappNameLabel : String := "ssvirt.io/vapp-name"

/-- The uid of the template instance that made an object. -/
def templateInstanceOwnerLabel : String := "template.openshift.io/template-instance-owner"

/-- The label selector of every namespace that the controllers made. -/
def managedSelector : String := managedByLabel ++ "=" ++ managedByValue

/-! ## Annotations -/

/-- The owner of a namespace is disabled. -/
def disabledAnnotation : String := "ssvirt.io/disabled"

/-- When a namespace was first seen without an owner. -/
def orphanedAtAnnotation : String := "ssvirt.io/orphaned-at"

/-- A namespace still waits for the policy that isolates it. -/
def isolationPendingAnnotation : String := "ssvirt.io/isolation-pending"

def vdcNameAnnotation : String := "ssvirt.io/vdc-name"
def organizationNameAnnotation : String := "ssvirt.io/organization-name"
def displayNameAnnotation : String := "ssvirt.io/display-name"

/-- The guest operating system that a template declares. -/
def guestOsAnnotation : String := "vm.kubevirt.io/os"

/-! ## Controllers -/

def vmController : String := "vm_status"
def vmDataController : String := "vm_data"
def vappController : String := "vapp_status"
def vdcController : String := "vdc"
def organizationController : String := "organization"

/-! ## Objects and writers -/

/-- The quota of a virtual datacenter's namespace. -/
def quotaName : String := "vdc-quota"

/-- The policy that isolates a virtual datacenter's namespace. -/
def policyName : String := "vdc-default-deny"

/-- The writer and reporter that the controllers name themselves. -/
def fieldManager : String := "ssvirt-reconciler"

end TenantCloud.Vocabulary
