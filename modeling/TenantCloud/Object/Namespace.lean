import TenantCloud.Object.Metadata

/-!
# Namespaces

A `Namespace` is a cluster object that holds others. Only its labels and annotations matter to
the controllers; the rest is kept as read.
-/

set_option autoImplicit false

namespace TenantCloud

/-- An observation about a namespace. -/
structure NamespaceCondition where
  lastTransitionTime : Option Timestamp
  message : Option String
  reason : Option String
  status : String
  type : String
  deriving DecidableEq

instance : Wire NamespaceCondition where
  read? j := do
    let ms ← j.members?
    return {
      lastTransitionTime := ← ms.optional? "lastTransitionTime"
      message := ← ms.optional? "message"
      reason := ← ms.optional? "reason"
      status := ← ms.orElse? "status" ""
      type := ← ms.orElse? "type" "" }
  write c := .record [
    .optSeconds "lastTransitionTime" c.lastTransitionTime, .opt "message" c.message,
    .opt "reason" c.reason, .mem "status" c.status, .mem "type" c.type]

/-- What a namespace is meant to be. -/
structure NamespaceSpec where
  finalizers : Option (List String)
  deriving DecidableEq

instance : Wire NamespaceSpec where
  read? j := do return { finalizers := ← (← j.members?).optional? "finalizers" }
  write s := .record [.opt "finalizers" s.finalizers]

/-- What a namespace was seen to be. -/
structure NamespaceStatus where
  conditions : Option (List NamespaceCondition)
  phase : Option String
  deriving DecidableEq

instance : Wire NamespaceStatus where
  read? j := do
    let ms ← j.members?
    return { conditions := ← ms.optional? "conditions", phase := ← ms.optional? "phase" }
  write s := .record [.opt "conditions" s.conditions, .opt "phase" s.phase]

/-- A namespace of the cluster. -/
structure Namespace where
  metadata : Metadata
  spec : Option NamespaceSpec := none
  status : Option NamespaceStatus := none
  deriving DecidableEq, Inhabited

namespace Namespace

def kind : ObjectKind := ⟨"v1", "Namespace"⟩

def name (ns : Namespace) : String := ns.metadata.objectName
def labels (ns : Namespace) : Labels := ns.metadata.labels.getD ∅
def annotations (ns : Namespace) : Labels := ns.metadata.annotations.getD ∅

/-- An annotation with this key is there, whatever its text. -/
def hasAnnotation (ns : Namespace) (key : String) : Bool := ns.annotations.contains key

end Namespace

instance : Wire Namespace where
  read? j := do
    let ms ← j.members?
    guard (Namespace.kind.admits ms)
    return {
      metadata := ← ms.orElse? "metadata" {}
      spec := ← ms.optional? "spec"
      status := ← ms.optional? "status" }
  write n := Namespace.kind.write [
    .mem "metadata" n.metadata, .opt "spec" n.spec, .opt "status" n.status]

end TenantCloud
