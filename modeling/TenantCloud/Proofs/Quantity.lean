import TenantCloud.Proofs.Data.Dict
import TenantCloud.Quantity

/-!
# Comparing limits

Every text stands for the same quantity as itself, so limits compare equal to themselves
(`Quantity.sameLimits_self`), whatever their texts. Two maps compare equal just where they have the
same keys and, at each, the same quantity (`Quantity.sameLimits_iff`); against limits that are all
quantities the texts do not count, only their values do (`Quantity.sameLimits_iff_agree`). Since a
text counts by one reading alone (`Quantity.reading`), comparing is an equivalence
(`Quantity.sameLimits_equivalence`).
-/

set_option autoImplicit false

namespace TenantCloud.Quantity

theorem same_eq (a b : String) : same a b =
    match milli? a, milli? b with
    | some x, some y => x == y
    | _, _ => a == b := by
  unfold same Words.same
  simp only [Id.run_bind]
  show Id.run (match milli? a, milli? b with | some x, some y => _ | _, _ => _) = _
  split <;> rfl

theorem sameLimits_eq (a b : Dict String String) : sameLimits a b =
    (a.size == b.size && a.toList.all fun e => (b.get? e.1).any (same e.2)) := by
  have hentry : ∀ e : String × String,
      Id.run ((b.get? e.1).elim (pure false) (Words.wrapping.same e.2)) =
        (b.get? e.1).any (same e.2) := by
    intro e
    cases b.get? e.1 <;> rfl
  have hall : ∀ l : List (String × String),
      Id.run (l.allM fun e => (b.get? e.1).elim (pure false) (Words.wrapping.same e.2)) =
        l.all fun e => (b.get? e.1).any (same e.2) := by
    intro l
    induction l with
    | nil => rfl
    | cons e l ih =>
      rw [List.all_cons, ← ih, ← hentry e]
      simp only [List.allM, Id.run_bind]
      cases Id.run ((b.get? e.1).elim (pure false) (Words.wrapping.same e.2)) <;> rfl
  unfold sameLimits Words.sameLimits
  cases a.size == b.size with
  | true => exact hall a.toList
  | false => rfl

theorem same_self (a : String) : same a a = true := by
  rw [same_eq]
  cases milli? a with
  | none => exact beq_self_eq_true a
  | some x => exact beq_self_eq_true x

theorem sameLimits_self (a : Dict String String) : sameLimits a a = true := by
  rw [sameLimits_eq, beq_self_eq_true, Bool.true_and, List.all_eq_true]
  intro e he
  rw [Dict.get?_eq_some_iff.2 he]
  exact same_self e.2

/-- The same keys and, at each, the same quantity. -/
theorem sameLimits_iff {a b : Dict String String} : sameLimits a b = true ↔
    ∀ key, Option.Rel (fun x y => same x y = true) (a.get? key) (b.get? key) := by
  have hcontains : ∀ {d : Dict String String} {key : String},
      d.contains key = true ↔ ∃ text, d.get? key = some text := Option.isSome_iff_exists
  rw [sameLimits_eq]
  constructor
  · intro h
    obtain ⟨hsize, hall⟩ := Bool.and_eq_true_iff.1 h
    have hentry : ∀ {key text}, a.get? key = some text →
        ∃ text', b.get? key = some text' ∧ same text text' = true := by
      intro key text hkey
      have hany := List.all_eq_true.1 hall _ (Dict.get?_eq_some_iff.1 hkey)
      simpa [Option.any_eq_true] using hany
    have hsubset : ∀ key, a.contains key = true → b.contains key = true := by
      intro key hkey
      obtain ⟨text, htext⟩ := hcontains.1 hkey
      obtain ⟨text', htext', -⟩ := hentry htext
      exact hcontains.2 ⟨text', htext'⟩
    have hkeys := Dict.contains_iff_of_size_eq (eq_of_beq hsize) hsubset
    intro key
    cases hkey : a.get? key with
    | some text =>
      obtain ⟨text', htext', hsame⟩ := hentry hkey
      rw [htext']
      exact .some hsame
    | none =>
      cases hkey' : b.get? key with
      | none => exact .none
      | some text' =>
        obtain ⟨text, htext⟩ := hcontains.1 ((hkeys key).2 (hcontains.2 ⟨text', hkey'⟩))
        rw [hkey] at htext
        cases htext
  · intro h
    have hkeys : ∀ key, a.contains key = true ↔ b.contains key = true := by
      intro key
      unfold Dict.contains
      have hkey := h key
      revert hkey
      cases a.get? key <;> cases b.get? key <;> intro hkey <;> cases hkey <;> rfl
    refine Bool.and_eq_true_iff.2
      ⟨beq_iff_eq.2 (Dict.size_eq_of_contains_iff hkeys), List.all_eq_true.2 fun e he => ?_⟩
    have hkey := h e.1
    rw [Dict.get?_eq_some_iff.2 he] at hkey
    revert hkey
    cases b.get? e.1 with
    | none => exact nofun
    | some text =>
      rintro (hsame | _)
      exact hsame

/-- The same keys and, at each, texts that are read as the same value. -/
def Agree (a b : Dict String String) : Prop :=
  ∀ key, (a.get? key).map milli? = (b.get? key).map milli?

/-- Against a text that is a quantity only the values count. -/
theorem same_iff_of_isSome {x y : String} (h : (milli? y).isSome = true) :
    same x y = true ↔ milli? x = milli? y := by
  obtain ⟨m, hm⟩ := Option.isSome_iff_exists.1 h
  rw [same_eq, hm]
  cases hx : milli? x with
  | some k => simp
  | none =>
    refine ⟨fun hxy => ?_, nofun⟩
    rw [eq_of_beq hxy, hm] at hx
    cases hx

theorem sameLimits_iff_agree {a b : Dict String String}
    (h : ∀ key text, b.get? key = some text → (milli? text).isSome = true) :
    sameLimits a b = true ↔ Agree a b := by
  rw [sameLimits_iff]
  refine forall_congr' fun key => ?_
  cases hb : b.get? key with
  | none => cases a.get? key <;> simp
  | some y =>
    cases a.get? key with
    | none => simp
    | some x => simpa using same_iff_of_isSome (h key y hb)

/-! ## An equivalence -/

/-- What counts of a text: its value where it is a quantity, else the text itself. -/
def reading (a : String) : Int ⊕ String := (milli? a).elim (.inr a) .inl

theorem same_iff_reading {a b : String} : same a b = true ↔ reading a = reading b := by
  by_cases h : a = b
  · subst h
    simp [same_self]
  · rw [same_eq]
    unfold reading
    cases milli? a <;> cases milli? b <;> simp [h]

theorem sameLimits_iff_reading {a b : Dict String String} : sameLimits a b = true ↔
    ∀ key, (a.get? key).map reading = (b.get? key).map reading := by
  rw [sameLimits_iff]
  refine forall_congr' fun key => ?_
  cases a.get? key <;> cases b.get? key <;> simp [same_iff_reading]

/-- Two texts count the same where both have one value or they are one text. -/
theorem reading_eq_iff {a b : String} : reading a = reading b ↔
    (∃ m, milli? a = some m ∧ milli? b = some m) ∨ a = b := by
  by_cases h : a = b
  · simp [h]
  · unfold reading
    cases milli? a <;> cases milli? b <;> simp [h, eq_comm]

/-- **Comparing limits is an equivalence.** Any limit may be a quantity, a text that is none, or one
that is too large, and two maps compare equal just where they have the same keys and, at each, one
value or one text. -/
theorem sameLimits_equivalence :
    Equivalence (fun a b : Dict String String => sameLimits a b = true) ∧
      ∀ a b, sameLimits a b = true ↔
        (∀ key, a.contains key = true ↔ b.contains key = true) ∧
          ∀ key x y, a.get? key = some x → b.get? key = some y →
            (∃ m, milli? x = some m ∧ milli? y = some m) ∨ x = y := by
  refine ⟨⟨sameLimits_self, fun h => ?_, fun h h' => ?_⟩, fun a b => ?_⟩
  · rw [sameLimits_iff_reading] at h ⊢
    exact fun key => (h key).symm
  · rw [sameLimits_iff_reading] at h h' ⊢
    exact fun key => (h key).trans (h' key)
  · rw [sameLimits_iff_reading, ← forall_and]
    refine forall_congr' fun key => ?_
    unfold Dict.contains
    cases a.get? key <;> cases b.get? key <;> simp [reading_eq_iff]

end TenantCloud.Quantity
