import TenantCloud.Reconcile.Namespace

/-!
# Passes for organizations

An organization that is bound to a namespace has it created and its metadata kept, annotated while
it is disabled, and removed once it is deleted. It has neither quota nor policy.
-/

set_option autoImplicit false

namespace TenantCloud

/-- The metadata of the namespace of an organization. -/
def Organization.namespaceMeta (o : Organization) : NamespaceMeta where
  labels := .ofList [
    (Vocabulary.managedByLabel, Vocabulary.managedByValue),
    (Vocabulary.kindLabel, Vocabulary.organizationKind),
    (Vocabulary.organizationIdLabel, o.id.render)]
  annotations := .ofList [(Vocabulary.organizationNameAnnotation, o.name)]

namespace Reconcile

open Attempt

/-- Bring the namespace of an enabled organization to what it wants. -/
def convergeOrganization (o : Organization) (ns : String) : Attempt Unit := do
  match ← cluster (.getNamespace ns) with
  | some found => let _ ← convergeMetadata found o.namespaceMeta
  | none => cluster (.createNamespace (o.namespaceMeta.toNamespace ns))

/-- One pass for the organization with an identity. -/
def organization (id : Uuid) : Attempt Unit := do
  match ← store (.getOrganization id) with
  | none => measure (.skippedUpdate Vocabulary.organizationController "not_found")
  | some o =>
    match o.bound? with
    | none => measure (.skippedUpdate Vocabulary.organizationController "no_namespace")
    | some ns =>
      if o.isDeleted then
        let _ ← ensureAbsent ns
      else if !o.enabled then
        let _ ← markDisabled ns
      else convergeOrganization o ns

end Reconcile

end TenantCloud
