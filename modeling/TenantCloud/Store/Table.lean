import TenantCloud.Rows.Organization
import TenantCloud.Rows.VApp
import TenantCloud.Rows.Vdc
import TenantCloud.Rows.Vm

/-!
# Tables

A table is a list of rows in the order in which they came. `put` keeps the place of a row that is
replaced, `amend` changes one row, and neither `amend` nor `put` moves another row.
-/

set_option autoImplicit false

namespace TenantCloud

/-- Rows have an identity. -/
class Row (ρ : Type) where
  rowId : ρ → Uuid

instance : Row Organization := ⟨(·.id)⟩
instance : Row Vdc := ⟨(·.id)⟩
instance : Row VApp := ⟨(·.id)⟩
instance : Row Vm := ⟨(·.id)⟩

/-- Rows in the order in which they came. -/
abbrev Table (ρ : Type) := List ρ

namespace Table

variable {ρ : Type} [Row ρ]

/-- The row with an identity. -/
def get? (t : Table ρ) (id : Uuid) : Option ρ := t.find? (Row.rowId · == id)

/-- A row with this identity is there. -/
def has (t : Table ρ) (id : Uuid) : Bool := t.any (Row.rowId · == id)

/-- Change the row with an identity. -/
def amend (t : Table ρ) (id : Uuid) (f : ρ → ρ) : Table ρ :=
  t.map fun r => if Row.rowId r == id then f r else r

/-- Put a row in place of the one with its identity, or at the end. -/
def put (t : Table ρ) (row : ρ) : Table ρ :=
  if has t (Row.rowId row) then amend t (Row.rowId row) fun _ => row else t ++ [row]

/-- Drop the row with an identity. -/
def drop (t : Table ρ) (id : Uuid) : Table ρ := t.filter (Row.rowId · != id)

theorem put_of_fresh {t : Table ρ} {row : ρ} (h : has t (Row.rowId row) = false) :
    put t row = t ++ [row] := by simp [put, h]

theorem has_eq_isSome_get? (t : Table ρ) (id : Uuid) : has t id = (get? t id).isSome := by
  rw [Bool.eq_iff_iff]
  simp [has, get?, List.find?_isSome, List.any_eq_true]

theorem length_amend (t : Table ρ) (id : Uuid) (f : ρ → ρ) :
    (amend t id f).length = t.length := by simp [amend]

end Table

end TenantCloud
