import TenantCloud.Object.Metadata

/-!
# Template instances

A `TemplateInstance` records that a template was instantiated. Its name is the name of a vApp, and
its conditions say whether the instantiation is ready (`isReady`) or failed (`hasFailed`).
-/

set_option autoImplicit false

namespace TenantCloud

/-- An observation about an instantiation. -/
structure InstanceCondition where
  type : String
  status : String
  reason : Option String
  message : Option String
  deriving DecidableEq

instance : Wire InstanceCondition where
  read? j := do
    let ms ← j.fields? ["type", "status", "reason", "message"]
    return {
      type := ← ms.required? "type"
      status := ← ms.required? "status"
      reason := ← ms.optional? "reason"
      message := ← ms.optional? "message" }
  write c := .record [
    .mem "type" c.type, .mem "status" c.status, .opt "reason" c.reason, .opt "message" c.message]

/-- The template that is instantiated, kept as read. -/
structure TemplateInstanceSpec where
  template : Option Json
  deriving DecidableEq

instance : Wire TemplateInstanceSpec where
  read? j := do return { template := ← (← j.fields? ["template"]).optional? "template" }
  write s := .record [.opt "template" s.template]

/-- How an instantiation went. -/
structure TemplateInstanceStatus where
  conditions : List InstanceCondition
  deriving DecidableEq

instance : Wire TemplateInstanceStatus where
  read? j := do return { conditions := ← (← j.fields? ["conditions"]).absentOr? "conditions" [] }
  write s := .record [.mem "conditions" s.conditions]

/-- A record of an instantiation. -/
structure TemplateInstance where
  metadata : Metadata
  spec : TemplateInstanceSpec
  status : Option TemplateInstanceStatus
  deriving DecidableEq

namespace TemplateInstance

def kind : ObjectKind := ⟨"template.openshift.io/v1", "TemplateInstance"⟩

def name (ti : TemplateInstance) : String := ti.metadata.objectName
def ns (ti : TemplateInstance) : String := ti.metadata.objectNamespace
def reference (ti : TemplateInstance) : ObjectReference := kind.reference ti.metadata

/-- The conditions of a type that hold. -/
def holding (ti : TemplateInstance) (type : String) : List InstanceCondition :=
  (ti.status.elim [] (·.conditions)).filter fun c => c.type == type && c.status == "True"

/-- The instantiation is complete. -/
def isReady (ti : TemplateInstance) : Bool := !(ti.holding "Ready").isEmpty

/-- The instantiation failed. -/
def hasFailed (ti : TemplateInstance) : Bool := !(ti.holding "InstantiateFailure").isEmpty

/-- What the first failure says. -/
def failureMessage (ti : TemplateInstance) : Option String :=
  (ti.holding "InstantiateFailure").head?.bind (·.message)

end TemplateInstance

instance : Wire TemplateInstance where
  read? j := do
    let ms ← j.allFields? ["metadata", "spec", "status"]
    return {
      metadata := ← ms.required? "metadata"
      spec := ← ms.required? "spec"
      status := ← ms.optional? "status" }
  write t := TemplateInstance.kind.write [
    .mem "metadata" t.metadata, .mem "spec" t.spec, .opt "status" t.status]

end TenantCloud
