import TenantCloud.Json.Wire

/-!
# Rows of vApps

A vApp groups machines of one virtual datacenter under a name. `VAppStatus` is where it stands in
its lifecycle.
-/

set_option autoImplicit false

namespace TenantCloud

/-- The lifecycle of a vApp. -/
inductive VAppStatus
  | instantiating | deployed | deleting | deleted | failed
  deriving DecidableEq

namespace VAppStatus

/-- Every status, in lifecycle order. -/
def all : List VAppStatus := [instantiating, deployed, deleting, deleted, failed]

/-- The word for a status. -/
def word : VAppStatus → String
  | instantiating => "INSTANTIATING"
  | deployed => "DEPLOYED"
  | deleting => "DELETING"
  | deleted => "DELETED"
  | failed => "FAILED"

/-- The status with a word. -/
def ofWord? (w : String) : Option VAppStatus := all.find? (·.word == w)

instance : ToString VAppStatus := ⟨word⟩

theorem mem_all (s : VAppStatus) : s ∈ all := by cases s <;> decide

theorem ofWord?_word (s : VAppStatus) : ofWord? s.word = some s := by cases s <;> decide

end VAppStatus

instance : Wire VAppStatus := ⟨fun j => j.choice?.bind VAppStatus.ofWord?, fun s => .str s.word⟩

/-- The row of a vApp. -/
structure VApp where
  id : Uuid
  name : String
  vdcId : Uuid
  status : VAppStatus
  description : String
  createdAt : Timestamp
  updatedAt : Timestamp
  deriving DecidableEq

/-- What a new row of a vApp is made from. -/
structure NewVApp where
  name : String
  vdcId : Uuid
  status : VAppStatus
  description : String
  deriving DecidableEq

instance : Wire VApp where
  read? j := do
    let ms ← j.fields? ["id", "name", "vdc_id", "status", "description", "created_at", "updated_at"]
    return {
      id := ← ms.required? "id"
      name := ← ms.required? "name"
      vdcId := ← ms.required? "vdc_id"
      status := ← ms.required? "status"
      description := ← ms.required? "description"
      createdAt := ← ms.required? "created_at"
      updatedAt := ← ms.required? "updated_at" }
  write a := .record [
    .mem "id" a.id, .mem "name" a.name, .mem "vdc_id" a.vdcId, .mem "status" a.status,
    .mem "description" a.description, .mem "created_at" a.createdAt,
    .mem "updated_at" a.updatedAt]

end TenantCloud
