import TenantCloud.Rows.Organization

/-!
# Rows of virtual datacenters

A virtual datacenter is the part of an organization that owns one namespace of the cluster and
limits the resources used there.
-/

set_option autoImplicit false

namespace TenantCloud

/-- The row of a virtual datacenter. A limit that is absent, zero or negative is none. -/
structure Vdc where
  id : Uuid
  name : String
  organizationId : Uuid
  ns : Option String
  enabled : Bool
  /-- Processors. -/
  cpuLimit : Option Int
  /-- Mebibytes of memory. -/
  memoryLimit : Option Int
  /-- Gibibytes of storage. -/
  storageLimit : Option Int
  deletedAt : Option Timestamp
  createdAt : Timestamp
  updatedAt : Timestamp
  deriving DecidableEq

namespace Vdc

def isDeleted (v : Vdc) : Bool := v.deletedAt.isSome

/-- The namespace that the virtual datacenter is bound to. -/
def bound? (v : Vdc) : Option String := boundNamespace? v.ns

/-- A row that is not deleted and bound to `ns`. -/
def liveAt (v : Vdc) (ns : String) : Bool := !v.isDeleted && v.bound? == some ns

end Vdc

instance : Wire Vdc where
  read? j := do
    let ms ← j.fields? ["id", "name", "organization_id", "namespace", "enabled", "cpu_limit",
      "memory_limit_mb", "storage_limit_gb", "deleted_at", "created_at", "updated_at"]
    return {
      id := ← ms.required? "id"
      name := ← ms.required? "name"
      organizationId := ← ms.required? "organization_id"
      ns := ← ms.optional? "namespace"
      enabled := ← ms.required? "enabled"
      cpuLimit := ← ms.optionalWith? "cpu_limit" Json.int64?
      memoryLimit := ← ms.optionalWith? "memory_limit_mb" Json.int64?
      storageLimit := ← ms.optionalWith? "storage_limit_gb" Json.int64?
      deletedAt := ← ms.optional? "deleted_at"
      createdAt := ← ms.required? "created_at"
      updatedAt := ← ms.required? "updated_at" }
  write v := .record [
    .mem "id" v.id, .mem "name" v.name, .mem "organization_id" v.organizationId,
    .nullable "namespace" v.ns, .mem "enabled" v.enabled, .nullableInt "cpu_limit" v.cpuLimit,
    .nullableInt "memory_limit_mb" v.memoryLimit, .nullableInt "storage_limit_gb" v.storageLimit,
    .nullable "deleted_at" v.deletedAt, .mem "created_at" v.createdAt,
    .mem "updated_at" v.updatedAt]

end TenantCloud
