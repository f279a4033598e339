import TenantCloud.Json.Wire

/-!
# Rows of organizations

An organization is the boundary of a tenant. The controllers only read its row.
-/

set_option autoImplicit false

namespace TenantCloud

/-- A namespace that a row is bound to; the empty name binds nothing. -/
def boundNamespace? (name : Option String) : Option String := name.filter (· ≠ "")

theorem boundNamespace?_eq_some {name : Option String} {ns : String} :
    boundNamespace? name = some ns ↔ name = some ns ∧ ns ≠ "" := by
  simp [boundNamespace?, Option.filter_eq_some_iff]

/-- The row of an organization. -/
structure Organization where
  id : Uuid
  name : String
  displayName : String
  description : String
  enabled : Bool
  /-- The namespace of the organization; without one there is nothing to converge. -/
  ns : Option String
  deletedAt : Option Timestamp
  createdAt : Timestamp
  updatedAt : Timestamp
  deriving DecidableEq

namespace Organization

def isDeleted (o : Organization) : Bool := o.deletedAt.isSome

/-- The namespace that the organization is bound to. -/
def bound? (o : Organization) : Option String := boundNamespace? o.ns

end Organization

instance : Wire Organization where
  read? j := do
    let ms ← j.fields? ["id", "name", "display_name", "description", "enabled", "namespace",
      "deleted_at", "created_at", "updated_at"]
    return {
      id := ← ms.required? "id"
      name := ← ms.required? "name"
      displayName := ← ms.required? "display_name"
      description := ← ms.required? "description"
      enabled := ← ms.required? "enabled"
      ns := ← ms.optional? "namespace"
      deletedAt := ← ms.optional? "deleted_at"
      createdAt := ← ms.required? "created_at"
      updatedAt := ← ms.required? "updated_at" }
  write o := .record [
    .mem "id" o.id, .mem "name" o.name, .mem "display_name" o.displayName,
    .mem "description" o.description, .mem "enabled" o.enabled, .nullable "namespace" o.ns,
    .nullable "deleted_at" o.deletedAt, .mem "created_at" o.createdAt,
    .mem "updated_at" o.updatedAt]

end TenantCloud
