import TenantCloud.Effect.Pass
import TenantCloud.Vocabulary

/-!
# Namespaces of owners

A row of a virtual datacenter or an organization owns a namespace. `ensureAbsent` removes it,
`markDisabled` annotates it, and `converge` brings its labels and annotations to what the owner
wants and takes off the marks of being disabled or orphaned. Each says whether it wrote anything.
-/

set_option autoImplicit false

namespace TenantCloud

/-- The labels and annotations that an owner wants on its namespace. -/
structure NamespaceMeta where
  labels : Labels
  annotations : Labels
  deriving DecidableEq

namespace NamespaceMeta

/-- The namespace to be created. -/
def toNamespace (m : NamespaceMeta) (name : String) : Namespace where
  metadata := {
    name := some name
    labels := some m.labels
    annotations := some m.annotations }

/-- Annotations that the namespace of an enabled owner does not carry. -/
def marks : List String := [Vocabulary.disabledAnnotation, Vocabulary.orphanedAtAnnotation]

/-- What is to change about the labels of a namespace. -/
def labelPatch (m : NamespaceMeta) (ns : Namespace) : LabelPatch :=
  LabelPatch.changes ns.metadata.labels m.labels

/-- What is to change about the annotations of a namespace. A mark goes, even a wanted one. -/
def annotationPatch (m : NamespaceMeta) (ns : Namespace) : LabelPatch :=
  Dict.union (LabelPatch.changes ns.metadata.annotations m.annotations)
    (LabelPatch.removals ns.metadata.annotations marks)

end NamespaceMeta

namespace Reconcile

open Attempt

/-- Delete a namespace if it is there. -/
def ensureAbsent (name : String) : Attempt Bool := do
  match ← cluster (.getNamespace name) with
  | none => return false
  | some _ =>
    cluster (.deleteNamespace name)
    return true

/-- Annotate a namespace as disabled if it is there and is not annotated yet. -/
def markDisabled (name : String) : Attempt Bool := do
  match ← cluster (.getNamespace name) with
  | none => return false
  | some ns =>
    if ns.hasAnnotation Vocabulary.disabledAnnotation then return false
    else
      cluster (.patchNamespaceMetadata name ∅ (LabelPatch.set Vocabulary.disabledAnnotation "true"))
      return true

/-- Bring a namespace to the metadata that its owner wants, with one patch at most. -/
def convergeMetadata (ns : Namespace) (desired : NamespaceMeta) : Attempt Bool := do
  let labels := desired.labelPatch ns
  let annotations := desired.annotationPatch ns
  if labels.isEmpty && annotations.isEmpty then return false
  else
    cluster (.patchNamespaceMetadata ns.name labels annotations)
    return true

end Reconcile

end TenantCloud
