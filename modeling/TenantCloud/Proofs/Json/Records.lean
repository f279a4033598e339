import Mathlib.Data.List.Forall2
import TenantCloud.Json.Wire

/-!
# Reading what was written member by member

A record is written as the members that have a value (`Json.membersOf`). Where it has one field of
a name, a reader of that member finds what the field holds (`Json.fields?_record`,
`Json.optionalWith?_membersOf`, `Json.last?_membersOf`). `Wire.Lossless` says of a type that what
was read is read again from what it is written as; a member of such a type then comes back
(`Json.optional?_written`, `Json.required?_written`).
-/

set_option autoImplicit false

namespace TenantCloud

/-- What was read is read again from what it is written as. -/
class Wire.Lossless (α : Type) [Wire α] : Prop where
  reread : ∀ {j : Json} {a : α}, Wire.read? j = some a → Wire.read? (Wire.write a) = some a
  /-- A value is written as `null` only where it was one. -/
  ne_null : ∀ {j : Json} {a : α}, Wire.read? j = some a → j ≠ .null → Wire.write a ≠ .null

/-- One step of reading after another. -/
theorem bind_eq_some_iff {α β : Type} {x : Option α} {f : α → Option β} {b : β} :
    (x >>= f) = some b ↔ ∃ a, x = some a ∧ f a = some b :=
  Option.bind_eq_some_iff

/-- A list is read if each of its values is. -/
theorem mapM_eq_some_iff {α β : Type} {f : α → Option β} {l : List α} {l' : List β} :
    l.mapM f = some l' ↔ List.Forall₂ (fun a b => f a = some b) l l' := by
  induction l generalizing l' with
  | nil => simp [eq_comm]
  | cons a l ih =>
    simp only [List.mapM_cons, Option.bind_eq_bind, Option.bind_eq_some_iff, Option.pure_def,
      Option.some.injEq, ih, List.forall₂_cons_left_iff]
    constructor
    · rintro ⟨b, hb, bs, hbs, rfl⟩
      exact ⟨b, bs, hb, hbs, rfl⟩
    · rintro ⟨b, bs, hb, hbs, rfl⟩
      exact ⟨b, hb, bs, hbs, rfl⟩

theorem exists_of_mem_mapM {α β : Type} {f : α → Option β} {l : List α} {l' : List β}
    (h : l.mapM f = some l') {b : β} (hb : b ∈ l') : ∃ a ∈ l, f a = some b := by
  rw [mapM_eq_some_iff] at h
  induction h with
  | nil => cases hb
  | cons hab _ ih =>
    rcases List.mem_cons.1 hb with rfl | hb
    · exact ⟨_, List.mem_cons_self, hab⟩
    · obtain ⟨a, ha, hab⟩ := ih hb
      exact ⟨a, List.mem_cons_of_mem _ ha, hab⟩

namespace Json

variable {α : Type} {fs : List Field} {f : Field} {ms : Members} {name : String}
  {names : List String} {read? : Json → Option α} {write : α → Json} {a : Option α}

/-! ## Members and fields -/

/-- The members that a record is written with. -/
def membersOf (fs : List Field) : Members := fs.filterMap fun f => f.value.map (f.name, ·)

/-- The fields of a name. -/
def fieldsOf (name : String) (fs : List Field) : List Field := fs.filter (·.name == name)

/-- What becomes of an optional member that has these values. -/
def rereads (read? : Json → Option α) (values : List Json) : Option (Option α) :=
  (values.mapM (Members.nullOr? read?)).map (·.getLast?.join)

theorem filter_membersOf (fs : List Field) (name : String) :
    (membersOf fs).filter (·.1 == name) =
      ((fieldsOf name fs).filterMap (·.value)).map (name, ·) := by
  induction fs with
  | nil => rfl
  | cons f fs ih =>
    obtain ⟨n, v⟩ := f
    rw [membersOf, fieldsOf] at ih ⊢
    by_cases hn : n = name
    · subst hn
      cases v <;> simp [ih]
    · cases v <;> simp [hn, ih]

theorem filter_membersOf_of_one (h : fieldsOf name fs = [f]) :
    (membersOf fs).filter (·.1 == name) = (f.value.map (name, ·)).toList := by
  rw [filter_membersOf, h]
  cases hv : f.value <;> simp [hv]

theorem members?_record (fs : List Field) : (record fs).members? = some (membersOf fs) := rfl

/-- A record without two fields of one name is an object without two members of one name. -/
theorem fields?_record (h : (names.all fun name => (fieldsOf name fs).length ≤ 1) = true) :
    (record fs).fields? names = some (membersOf fs) := by
  apply if_pos
  rw [List.all_eq_true] at h ⊢
  intro name hname
  have hone : (fieldsOf name fs).length ≤ 1 := by simpa using h name hname
  have hcount : occurrences (membersOf fs) name ≤ (fieldsOf name fs).length := by
    rw [occurrences, List.countP_eq_length_filter, filter_membersOf, List.length_map]
    exact List.length_filterMap_le _ _
  exact decide_eq_true (Nat.le_trans hcount hone)

theorem allFields?_record (h : (names.all fun name => (fieldsOf name fs).length ≤ 1) = true) :
    (record fs).allFields? names = some (membersOf fs) :=
  fields?_record h

theorem optionalWith?_membersOf (h : fieldsOf name fs = [f]) :
    (membersOf fs).optionalWith? name read? = rereads read? f.value.toList := by
  unfold Members.optionalWith?
  rw [filter_membersOf_of_one h]
  cases f.value <;> exact Option.map_eq_bind.symm

theorem last?_membersOf (h : fieldsOf name fs = [f]) : last? (membersOf fs) name = f.value := by
  rw [last?, ← List.head?_filter, List.filter_reverse, filter_membersOf_of_one h]
  cases f.value <;> rfl

/-! ## Members that come back -/

theorem nullOr?_of_ne_null {j : Json} (h : j ≠ .null) :
    Members.nullOr? read? j = (read? j).map some := by
  cases j with
  | null => exact absurd rfl h
  | _ => rfl

theorem exists_of_nullOr? {j : Json} {x : α} (h : Members.nullOr? read? j = some (some x)) :
    j ≠ .null ∧ read? j = some x := by
  by_cases hj : j = .null
  · subst hj
    cases h
  · rw [nullOr?_of_ne_null hj] at h
    exact ⟨hj, by simpa using h⟩

/-- A member that has a value was read from one that is not `null`. -/
theorem exists_of_optionalWith? (h : ms.optionalWith? name read? = some a) {x : α} (hx : x ∈ a) :
    ∃ j, j ≠ .null ∧ read? j = some x := by
  simp only [Members.optionalWith?, Option.bind_eq_bind, Option.bind_eq_some_iff] at h
  obtain ⟨values, hvalues, ha⟩ := h
  cases ha
  have hlast : some x ∈ values := List.mem_of_getLast? (Option.join_eq_some_iff.1 hx)
  obtain ⟨m, -, hm⟩ := exists_of_mem_mapM hvalues hlast
  exact ⟨m.2, exists_of_nullOr? hm⟩

/-- An optional member comes back as what its value is read again as. -/
theorem optionalWith?_written {g : α → α} (hf : fieldsOf name fs = [⟨name, a.map write⟩])
    (h : ms.optionalWith? name read? = some a)
    (hw : ∀ j x, j ≠ .null → read? j = some x → write x ≠ .null ∧ read? (write x) = some (g x)) :
    (membersOf fs).optionalWith? name read? = some (a.map g) := by
  rw [optionalWith?_membersOf hf]
  cases a with
  | none => rfl
  | some x =>
    obtain ⟨j, hj, hread⟩ := exists_of_optionalWith? h rfl
    obtain ⟨hnull, hagain⟩ := hw j x hj hread
    simp [rereads, nullOr?_of_ne_null hnull, hagain]

variable [Wire α] [Wire.Lossless α]

/-- An optional member of a lossless type comes back. -/
theorem optional?_written (h : ms.optional? name = some a)
    (hf : fieldsOf name fs = [.opt name a]) : (membersOf fs).optional? name = some a := by
  have hsame : ∀ (j : Json) (x : α), j ≠ .null → Wire.read? j = some x →
      Wire.write x ≠ .null ∧ Wire.read? (Wire.write x) = some (id x) :=
    fun j x hj hread => ⟨Wire.Lossless.ne_null hread hj, Wire.Lossless.reread hread⟩
  have hback := optionalWith?_written hf h hsame
  rwa [Option.map_id] at hback

/-- A member of a lossless type that must be there comes back. -/
theorem required?_written {x : α} (h : ms.required? name = some x)
    (hf : fieldsOf name fs = [.mem name x]) : (membersOf fs).required? name = some x := by
  obtain ⟨j, -, hread⟩ := Option.bind_eq_some_iff.1 h
  show (last? _ _).bind _ = _
  rw [last?_membersOf hf]
  exact Wire.Lossless.reread hread

end Json

end TenantCloud
