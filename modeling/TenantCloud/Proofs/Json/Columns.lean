import TenantCloud.Proofs.Json.Shape

/-!
# Records of optional members

Most records have optional members only. A `Column` is one such member with how its value is read
and written, and `Wire.Tabular` says of a record type that its columns are all that it is read from
and written as. Such a record is read again from what it is written as, and what its reader looks
at are its columns.
-/

set_option autoImplicit false

namespace TenantCloud

open Json

/-- An optional member of a record. -/
structure Column (ρ : Type) where
  name : String
  Value : Type
  get : ρ → Option Value
  read? : Json → Option Value
  write : Value → Json
  shape : Shape
  reread : ∀ {j : Json} {x : Value}, read? j = some x → read? (write x) = some x
  ne_null : ∀ {j : Json} {x : Value}, read? j = some x → j ≠ .null → write x ≠ .null
  strip_read : ∀ {j : Json} {x : Value}, read? j = some x → read? (shape.strip j) = some x
  strip_write : ∀ {j : Json} {x : Value}, read? j = some x → shape.strip (write x) = write x

namespace Column

variable {ρ α : Type}

/-- A member of a type with a wire form. -/
def of [Wire α] [Wire.Lossless α] [Wire.Shaped α] (name : String) (get : ρ → Option α) :
    Column ρ where
  name := name
  Value := α
  get := get
  read? := Wire.read?
  write := Wire.write
  shape := Wire.Shaped.shape α
  reread := Wire.Lossless.reread
  ne_null := Wire.Lossless.ne_null
  strip_read := Wire.Shaped.strip_read
  strip_write := Wire.Shaped.strip_write

/-- A whole number from zero in so many bits. -/
def nat (bits : Nat) (name : String) (get : ρ → Option Nat) : Column ρ where
  name := name
  Value := Nat
  get := get
  read? := nat? bits
  write n := .int n
  shape := .any
  reread h := nat?_of_lt (lt_of_nat? h)
  ne_null _ _ := nofun
  strip_read h := by rwa [Shape.strip_any]
  strip_write _ := Shape.strip_any _

/-- The member of a record. -/
def field (c : Column ρ) (r : ρ) : Field := ⟨c.name, (c.get r).map c.write⟩

end Column

/-- The columns of a record type are all that it is read from and written as. -/
class Wire.Tabular (ρ : Type) [Wire ρ] where
  columns : List (Column ρ)
  distinct : (columns.map (·.name)).Nodup
  read?_eq_some_iff : ∀ {j : Json} {r : ρ}, Wire.read? j = some r ↔
    ∃ ms, j.fields? (columns.map (·.name)) = some ms ∧
      ∀ c ∈ columns, ms.optionalWith? c.name c.read? = some (c.get r)
  write_eq : ∀ r : ρ, Wire.write r = .record (columns.map (·.field r))

namespace Wire.Tabular

variable {ρ : Type} {cs : List (Column ρ)} {c : Column ρ}

/-- Columns of different names make one field of each name. -/
theorem fieldsOf_columns (hdistinct : (cs.map (·.name)).Nodup) (hc : c ∈ cs) (r : ρ) :
    fieldsOf c.name (cs.map (·.field r)) = [c.field r] := by
  induction cs with
  | nil => cases hc
  | cons d cs ih =>
    obtain ⟨hd, hdistinct⟩ := List.nodup_cons.1 hdistinct
    have hcons : fieldsOf c.name ((d :: cs).map (·.field r)) =
        if d.name == c.name then d.field r :: fieldsOf c.name (cs.map (·.field r))
        else fieldsOf c.name (cs.map (·.field r)) := List.filter_cons
    rcases List.mem_cons.1 hc with rfl | hc
    · have hrest : fieldsOf c.name (cs.map (·.field r)) = [] := by
        simp only [fieldsOf, List.filter_eq_nil_iff, List.forall_mem_map, beq_iff_eq]
        exact fun e he heq => hd (List.mem_map.2 ⟨e, he, heq⟩)
      rw [hcons, if_pos (beq_self_eq_true c.name), hrest]
    · have hne : d.name ≠ c.name := fun heq => hd (List.mem_map.2 ⟨c, hc, heq.symm⟩)
      rw [hcons, if_neg (by simpa using hne), ih hdistinct hc]

theorem length_fieldsOf_columns (hdistinct : (cs.map (·.name)).Nodup) (r : ρ) :
    ((cs.map (·.name)).all fun name => (fieldsOf name (cs.map (·.field r))).length ≤ 1) = true := by
  rw [List.all_eq_true]
  intro name hname
  obtain ⟨c, hc, rfl⟩ := List.mem_map.1 hname
  rw [fieldsOf_columns hdistinct hc]
  rfl

/-- The shape of a member, by its name. -/
def shapeOf (cs : List (Column ρ)) (name : String) : Shape :=
  (cs.find? (·.name == name)).elim .any (·.shape)

theorem shapeOf_name (hdistinct : (cs.map (·.name)).Nodup) (hc : c ∈ cs) :
    shapeOf cs c.name = c.shape := by
  unfold shapeOf
  induction cs with
  | nil => cases hc
  | cons d cs ih =>
    obtain ⟨hd, hdistinct⟩ := List.nodup_cons.1 hdistinct
    rcases List.mem_cons.1 hc with rfl | hc
    · simp
    · have hne : d.name ≠ c.name := fun heq => hd (List.mem_map.2 ⟨c, hc, heq.symm⟩)
      rw [List.find?_cons_of_neg (by simpa using hne), ih hdistinct hc]

variable [Wire ρ] [Tabular ρ]

instance : Lossless ρ where
  reread {j r} h := by
    obtain ⟨ms, -, hms⟩ := read?_eq_some_iff.1 h
    rw [write_eq, read?_eq_some_iff]
    refine ⟨_, fields?_record (length_fieldsOf_columns distinct r), ?_⟩
    intro c hc
    have hback := optionalWith?_written (g := id) (fieldsOf_columns distinct hc r) (hms c hc)
      fun j x hj hread => ⟨c.ne_null hread hj, c.reread hread⟩
    rwa [Option.map_id] at hback
  ne_null {j r} _ _ := by
    rw [write_eq]
    nofun

instance : Shaped ρ where
  shape := .record [] ((columns : List (Column ρ)).map (·.name)) (shapeOf columns)
  strip_read {j r} h := by
    obtain ⟨ms, hfields, hms⟩ := read?_eq_some_iff.1 h
    obtain ⟨ms', hfields', hthin⟩ := Shape.fields?_strip hfields
    refine read?_eq_some_iff.2 ⟨ms', hfields', ?_⟩
    intro c hc
    have hname := List.mem_map_of_mem (f := Column.name) hc
    refine hthin.optionalWith? hname hname ?_ (hms c hc)
    intro j x hread
    rw [shapeOf_name distinct hc]
    exact c.strip_read hread
  strip_write {j r} h := by
    obtain ⟨ms, -, hms⟩ := read?_eq_some_iff.1 h
    rw [write_eq]
    apply Shape.strip_record
    intro f hf v hv
    obtain ⟨c, hc, rfl⟩ := List.mem_map.1 hf
    obtain ⟨x, hx, rfl⟩ := Option.map_eq_some_iff.1 hv
    obtain ⟨j, hj, hread⟩ := exists_of_optionalWith? (hms c hc) hx
    have hname := List.mem_map_of_mem (f := Column.name) hc
    refine ⟨?_, ?_⟩
    · simp [Shape.keeps, Column.field, hname, c.ne_null hread hj]
    · show (shapeOf columns c.name).strip _ = _
      rw [shapeOf_name distinct hc]
      exact c.strip_write hread

end Wire.Tabular

end TenantCloud
