import TenantCloud.Proofs.Json.Values

/-!
# What a reader looks at

A `Shape` says which members of which records a reader looks at, and `Shape.strip` takes the others
out of a value at every depth, and with them each `null` that counts as absent. A type is
`Wire.Shaped` if its reader does not miss what is taken out (`strip_read`) and nothing can be taken
out of what is written (`strip_write`). For a record both come down to its members
(`Shape.fields?_strip`, `Shape.strip_record`).
-/

set_option autoImplicit false

namespace TenantCloud

open Json

/-- What a reader looks at. -/
inductive Shape
  /-- The value as it is. -/
  | any
  /-- Each item of an array. -/
  | list (item : Shape)
  /-- Some members of an object. A `null` counts as absent for the `lax` ones. -/
  | record (strict lax : List String) (member : String → Shape)

namespace Shape

variable {α : Type} {strict lax names : List String} {member : String → Shape} {name : String}
  {ms ms' : Members} {j : Json} {a : Option α} {read? : Json → Option α}

/-- A record looks at this member. -/
def keeps (strict lax : List String) (m : String × Json) : Bool :=
  m.1 ∈ strict || (m.1 ∈ lax && m.2 ≠ .null)

/-- A value without what nobody looks at. -/
def strip : Shape → Json → Json
  | .list item, .arr items => .arr (items.map item.strip)
  | .record strict lax member, .obj ms =>
    .obj ((ms.filter (keeps strict lax)).map fun m => (m.1, (member m.1).strip m.2))
  | _, j => j

/-- The members of a record without what nobody looks at. -/
def stripMembers (strict lax : List String) (member : String → Shape) (ms : Members) : Members :=
  (ms.filter (keeps strict lax)).map fun m => (m.1, (member m.1).strip m.2)

theorem strip_any (j : Json) : any.strip j = j := by
  unfold strip
  rfl

theorem strip_ne_null {s : Shape} (h : j ≠ .null) : s.strip j ≠ .null := by
  cases s <;> cases j <;> simp_all [strip]

theorem strip_null (s : Shape) : s.strip .null = .null := by
  cases s <;> simp [strip]

/-! ## Members that are left -/

/-- `ms'` is what is left of the members `ms` of an object without repeated names, or of an array in
place of one, which loses nothing. -/
inductive Thinned (strict lax : List String) (member : String → Shape) (names : List String)
    (ms : Members) : Members → Prop
  | same : Thinned strict lax member names ms ms
  | stripped (h : ∀ name ∈ names, occurrences ms name ≤ 1) :
    Thinned strict lax member names ms (stripMembers strict lax member ms)

theorem filter_stripMembers : (stripMembers strict lax member ms).filter (·.1 == name) =
    stripMembers strict lax member (ms.filter (·.1 == name)) := by
  unfold stripMembers
  rw [List.filter_map, List.filter_filter, List.filter_filter]
  congr 1
  apply List.filter_congr
  intro m _
  exact Bool.and_comm _ _

theorem occurrences_stripMembers :
    occurrences (stripMembers strict lax member ms) name ≤ occurrences ms name := by
  simp only [occurrences, List.countP_eq_length_filter]
  rw [filter_stripMembers, stripMembers, List.length_map]
  exact List.length_filter_le _ _

/-- An object is taken as it is where it has each name once at most. -/
theorem fields?_obj {ms₀ : Members} (h : (Json.obj ms₀).fields? names = some ms) :
    ms = ms₀ ∧ ∀ name ∈ names, occurrences ms₀ name ≤ 1 := by
  obtain ⟨hcount, heq⟩ := Option.ite_none_right_eq_some.1 h
  simp only [List.all_eq_true, decide_eq_true_eq] at hcount
  exact ⟨(Option.some.inj heq).symm, hcount⟩

theorem fields?_strip (h : j.fields? names = some ms) :
    ∃ ms', ((record strict lax member).strip j).fields? names = some ms' ∧
      Thinned strict lax member names ms ms' := by
  cases j with
  | obj ms₀ =>
    obtain ⟨rfl, hcount⟩ := fields?_obj h
    refine ⟨_, if_pos ?_, .stripped hcount⟩
    simp only [List.all_eq_true, decide_eq_true_eq]
    exact fun name hname => Nat.le_trans occurrences_stripMembers (hcount name hname)
  | arr items => exact ⟨ms, h, .same⟩
  | _ => cases h

theorem allFields?_strip (h : j.allFields? names = some ms) :
    ∃ ms', ((record strict lax member).strip j).allFields? names = some ms' ∧
      Thinned strict lax member names ms ms' := by
  cases j with
  | arr items => exact ⟨ms, h, .same⟩
  | obj ms₀ => exact fields?_strip (j := .obj ms₀) h
  | _ => cases h

/-- A name that is not repeated has no member, or one. -/
theorem filter_of_occurrences (h : occurrences ms name ≤ 1) :
    ms.filter (·.1 == name) = [] ∨ ∃ j, ms.filter (·.1 == name) = [(name, j)] := by
  rw [occurrences, List.countP_eq_length_filter] at h
  have hmem : ∀ m ∈ ms.filter (·.1 == name), m.1 = name := by simp
  generalize ms.filter (·.1 == name) = named at h hmem
  rcases named with _ | ⟨⟨n, j⟩, _ | _⟩
  · exact .inl rfl
  · have hname : n = name := hmem _ List.mem_cons_self
    exact .inr ⟨j, by rw [hname]⟩
  · simp at h

theorem optionalWith?_of_none (h : ms.filter (·.1 == name) = []) :
    ms.optionalWith? name read? = some none := by
  unfold Members.optionalWith?
  rw [h]
  rfl

theorem optionalWith?_of_one (h : ms.filter (·.1 == name) = [(name, j)]) :
    ms.optionalWith? name read? = Members.nullOr? read? j := by
  unfold Members.optionalWith?
  rw [h]
  cases hj : Members.nullOr? read? j <;> simp [hj]

theorem last?_of_filter {l : Members} (h : ms.filter (·.1 == name) = l) :
    last? ms name = l.getLast?.map (·.2) := by
  rw [last?, ← List.head?_filter, List.filter_reverse, List.head?_reverse, h]

/-- What is left of one member. -/
theorem stripMembers_of_keeps (h : keeps strict lax (name, j) = true) :
    stripMembers strict lax member [(name, j)] = [(name, (member name).strip j)] := by
  simp [stripMembers, h]

theorem stripMembers_of_not_keeps (h : ¬keeps strict lax (name, j) = true) :
    stripMembers strict lax member [(name, j)] = [] := by
  simp [stripMembers, h]

namespace Thinned

variable (h : Thinned strict lax member names ms ms') (hname : name ∈ names)

include h hname

/-- An optional member is still there, unless it is a `null`. -/
theorem optionalWith? (hlax : name ∈ lax)
    (hread : ∀ j x, read? j = some x → read? ((member name).strip j) = some x)
    (ha : ms.optionalWith? name read? = some a) : ms'.optionalWith? name read? = some a := by
  cases h with
  | same => exact ha
  | stripped hcount =>
    rcases filter_of_occurrences (hcount name hname) with hms | ⟨j, hms⟩
    · rw [optionalWith?_of_none hms] at ha
      rw [← ha]
      apply optionalWith?_of_none
      rw [filter_stripMembers, hms]
      rfl
    · rw [optionalWith?_of_one hms] at ha
      by_cases hnull : j = .null
      · subst hnull
        cases ha
        by_cases hkept : keeps strict lax (name, .null) = true
        · rw [optionalWith?_of_one (by rw [filter_stripMembers, hms, stripMembers_of_keeps hkept]),
            strip_null]
          rfl
        · apply optionalWith?_of_none
          rw [filter_stripMembers, hms, stripMembers_of_not_keeps hkept]
      · have hkept : keeps strict lax (name, j) = true := by simp [keeps, hlax, hnull]
        rw [optionalWith?_of_one (by rw [filter_stripMembers, hms, stripMembers_of_keeps hkept]),
          nullOr?_of_ne_null (strip_ne_null hnull)]
        rw [nullOr?_of_ne_null hnull] at ha
        obtain ⟨x, hx, rfl⟩ := Option.map_eq_some_iff.1 ha
        rw [hread j x hx, Option.map_some]

/-- A member whose `null` counts as a value is still there. -/
theorem last? (hstrict : name ∈ strict) :
    ms' = ms ∨ Json.last? ms' name = (Json.last? ms name).map (member name).strip := by
  cases h with
  | same => exact .inl rfl
  | stripped hcount =>
    right
    rcases filter_of_occurrences (hcount name hname) with hms | ⟨j, hms⟩
    · have hstripped : (stripMembers strict lax member ms).filter (·.1 == name) = [] := by
        rw [filter_stripMembers, hms]
        rfl
      rw [last?_of_filter hms, last?_of_filter hstripped]
      rfl
    · have hkept : keeps strict lax (name, j) = true := by simp [keeps, hstrict]
      have hstripped : (stripMembers strict lax member ms).filter (·.1 == name) =
          [(name, (member name).strip j)] := by
        rw [filter_stripMembers, hms, stripMembers_of_keeps hkept]
      rw [last?_of_filter hms, last?_of_filter hstripped]
      rfl

end Thinned

end Shape

/-! ## Types with a shape -/

/-- What the reader of a type looks at. -/
class Wire.Shaped (α : Type) [Wire α] where
  shape : Shape
  strip_read : ∀ {j : Json} {a : α}, Wire.read? j = some a → Wire.read? (shape.strip j) = some a
  strip_write : ∀ {j : Json} {a : α}, Wire.read? j = some a →
    shape.strip (Wire.write a) = Wire.write a

namespace Shape

open Wire

variable {α : Type} [Wire α] [Shaped α] {strict lax names : List String} {member : String → Shape}
  {name : String} {ms ms' : Members} {fs : List Field} {a : Option α} {x : α}

namespace Thinned

variable (h : Thinned strict lax member names ms ms')

include h

theorem optional? (ha : ms.optional? name = some a) (hname : name ∈ names) (hlax : name ∈ lax)
    (hshape : member name = Shaped.shape α) : ms'.optional? name = some a := by
  apply h.optionalWith? hname hlax _ ha
  intro j x hread
  rw [hshape]
  exact Shaped.strip_read hread

theorem required? (hx : ms.required? name = some x) (hname : name ∈ names) (hstrict : name ∈ strict)
    (hshape : member name = Shaped.shape α) : ms'.required? name = some x := by
  rcases h.last? hname hstrict with hms | hlast
  · rw [hms]
    exact hx
  · obtain ⟨j, hj, hread⟩ := Option.bind_eq_some_iff.1 hx
    show (Json.last? ms' name).bind _ = _
    rw [hlast, hj, hshape]
    exact Shaped.strip_read hread

theorem absentOr? {dflt : α} (hx : ms.absentOr? name dflt = some x) (hname : name ∈ names)
    (hstrict : name ∈ strict) (hshape : member name = Shaped.shape α) :
    ms'.absentOr? name dflt = some x := by
  rcases h.last? hname hstrict with hms | hlast
  · rw [hms]
    exact hx
  · unfold Members.absentOr? at hx ⊢
    rw [hlast, hshape]
    cases hj : Json.last? ms name with
    | none =>
      rw [hj] at hx
      exact hx
    | some j =>
      rw [hj] at hx
      exact Shaped.strip_read hx

end Thinned

/-! ## What is written -/

/-- Nothing can be taken out of a field. -/
def Bare (strict lax : List String) (member : String → Shape) (f : Field) : Prop :=
  ∀ v ∈ f.value, keeps strict lax (f.name, v) = true ∧ (member f.name).strip v = v

/-- Nothing can be taken out of a record of bare fields. -/
theorem strip_record (h : ∀ f ∈ fs, Bare strict lax member f) :
    (record strict lax member).strip (Json.record fs) = Json.record fs := by
  have hbare : ∀ m ∈ membersOf fs, keeps strict lax m = true ∧ (member m.1).strip m.2 = m.2 := by
    intro m hm
    obtain ⟨f, hf, hfm⟩ := List.mem_filterMap.1 hm
    obtain ⟨v, hv, rfl⟩ := Option.map_eq_some_iff.1 hfm
    exact h f hf v hv
  have hmembers : stripMembers strict lax member (membersOf fs) = membersOf fs := by
    unfold stripMembers
    rw [List.filter_eq_self.2 fun m hm => (hbare m hm).1]
    calc (membersOf fs).map (fun m => (m.1, (member m.1).strip m.2))
        = (membersOf fs).map id :=
          List.map_congr_left fun m hm => Prod.ext rfl (hbare m hm).2
      _ = membersOf fs := List.map_id _
  exact congrArg Json.obj hmembers

theorem bare_opt [Lossless α] (ha : ms.optional? name = some a) (hlax : name ∈ lax)
    (hshape : member name = Shaped.shape α) : Bare strict lax member (.opt name a) := by
  intro v hv
  obtain ⟨x, hx, rfl⟩ := Option.map_eq_some_iff.1 hv
  obtain ⟨j, hj, hread⟩ := exists_of_optionalWith? ha hx
  have hnull := Lossless.ne_null hread hj
  refine ⟨by simp [keeps, Field.opt, hlax, hnull], ?_⟩
  show (member name).strip _ = _
  rw [hshape]
  exact Shaped.strip_write hread

theorem bare_mem {j : Json} (hx : read? j = some x) (hstrict : name ∈ strict)
    (hshape : member name = Shaped.shape α) : Bare strict lax member (.mem name x) := by
  rintro _ ⟨⟩
  refine ⟨by simp [keeps, Field.mem, hstrict], ?_⟩
  show (member name).strip _ = _
  rw [hshape]
  exact Shaped.strip_write hx

theorem bare_required (hx : ms.required? name = some x) (hstrict : name ∈ strict)
    (hshape : member name = Shaped.shape α) : Bare strict lax member (.mem name x) := by
  obtain ⟨j, -, hread⟩ := Option.bind_eq_some_iff.1 hx
  exact bare_mem hread hstrict hshape

end Shape

/-! ## Values -/

namespace Wire

instance : Shaped String where
  shape := .any
  strip_read h := by rwa [Shape.strip_any]
  strip_write _ := Shape.strip_any _

instance : Shaped Bool where
  shape := .any
  strip_read h := by rwa [Shape.strip_any]
  strip_write _ := Shape.strip_any _

instance : Shaped Json where
  shape := .any
  strip_read h := by rwa [Shape.strip_any]
  strip_write _ := Shape.strip_any _

instance : Shaped (Dict String String) where
  shape := .any
  strip_read h := by rwa [Shape.strip_any]
  strip_write _ := Shape.strip_any _

instance {α : Type} [Wire α] [Shaped α] : Shaped (List α) where
  shape := .list (Shaped.shape α)
  strip_read {j l} h := by
    cases j with
    | arr items =>
      show (items.map (Shaped.shape α).strip).mapM read? = some l
      rw [List.mapM_map, mapM_eq_some_iff]
      exact (mapM_eq_some_iff.1 h).imp fun _ _ hread => Shaped.strip_read hread
    | _ => cases h
  strip_write {j l} h := by
    cases j with
    | arr items =>
      show Json.arr ((l.map write).map (Shaped.shape α).strip) = Json.arr (l.map write)
      rw [List.map_map]
      refine congrArg Json.arr (List.map_congr_left fun a ha => ?_)
      obtain ⟨item, -, hitem⟩ := exists_of_mem_mapM h ha
      exact Shaped.strip_write hitem
    | _ => cases h

end Wire

end TenantCloud
