import Mathlib.Data.Nat.Digits.Defs
import TenantCloud.Text.Blank
import TenantCloud.Text.Digits

/-!
# What digits spell

`Digits.Spells` and `Digits.SpellsSigned` say which number a list of characters spells in decimal
digits, without and with a sign in front. Reading accepts just these (`Digits.read?_eq_some_iff`,
`Digits.readSigned?_eq_some_iff`), and the digits of a number spell it, with zeros in front or
without (`Digits.spells_toDigits`, `Digits.spells_padded`).
-/

set_option autoImplicit false

namespace TenantCloud.Text.Digits

variable {cs : List Char} {n : Nat} {z : Int}

/-- At least one digit, and the number that they spell. -/
structure Spells (cs : List Char) (n : Nat) : Prop where
  nonempty : cs ≠ []
  digits : ∀ c ∈ cs, isDigit c = true
  value : Nat.ofDigitChars 10 cs 0 = n

/-- Digits with at most one sign in front. -/
inductive SpellsSigned : List Char → Int → Prop
  | unsigned {cs : List Char} {n : Nat} : Spells cs n → SpellsSigned cs n
  | plus {cs : List Char} {n : Nat} : Spells cs n → SpellsSigned ('+' :: cs) n
  | minus {cs : List Char} {n : Nat} : Spells cs n → SpellsSigned ('-' :: cs) (-n)

theorem value_eq_ofDigitChars (cs : List Char) : value cs = Nat.ofDigitChars 10 cs 0 := by
  unfold value Nat.ofDigitChars
  congr 1
  funext acc c
  rw [Nat.mul_comm]
  rfl

theorem read?_eq_some_iff : read? cs = some n ↔ Spells cs n := by
  unfold read?
  rw [value_eq_ofDigitChars]
  constructor
  · intro h
    split at h
    · cases h
    · rename_i hcs
      rw [Bool.or_eq_true, not_or, List.isEmpty_iff, Bool.not_eq_true', Bool.not_eq_false,
        List.all_eq_true] at hcs
      exact ⟨hcs.1, hcs.2, Option.some.inj h⟩
  · rintro ⟨hne, hdigits, rfl⟩
    rw [if_neg]
    rw [Bool.or_eq_true, not_or, List.isEmpty_iff, Bool.not_eq_true', Bool.not_eq_false,
      List.all_eq_true]
    exact ⟨hne, hdigits⟩

/-- What starts with a sign spells no number without one. -/
theorem Spells.not_sign {c : Char} (h : Spells (c :: cs) n) : c ≠ '+' ∧ c ≠ '-' := by
  have hc := h.digits c List.mem_cons_self
  constructor
  · rintro rfl
    exact absurd hc (by decide)
  · rintro rfl
    exact absurd hc (by decide)

theorem readSigned?_eq_some_iff : readSigned? cs = some z ↔ SpellsSigned cs z := by
  have hmap : ∀ {cs : List Char} {f : Nat → Int}, (read? cs).map f = some z ↔
      ∃ n, Spells cs n ∧ f n = z := by
    intro cs f
    simp only [Option.map_eq_some_iff, read?_eq_some_iff]
  constructor
  · intro h
    unfold readSigned? at h
    split at h
    · obtain ⟨n, hn, rfl⟩ := hmap.1 h
      exact .plus hn
    · obtain ⟨n, hn, rfl⟩ := hmap.1 h
      exact .minus hn
    · obtain ⟨n, hn, rfl⟩ := hmap.1 h
      exact .unsigned hn
  · intro h
    cases h with
    | plus h => exact hmap.2 ⟨_, h, rfl⟩
    | minus h => exact hmap.2 ⟨_, h, rfl⟩
    | unsigned h =>
      cases cs with
      | nil => exact absurd rfl h.nonempty
      | cons c cs =>
        obtain ⟨hplus, hminus⟩ := h.not_sign
        unfold readSigned?
        split
        · rename_i heq
          cases heq
          exact absurd rfl hplus
        · rename_i heq
          cases heq
          exact absurd rfl hminus
        · exact hmap.2 ⟨_, h, rfl⟩

/-- The digits of a number spell it. -/
theorem spells_toDigits (n : Nat) : Spells (Nat.toDigits 10 n) n := by
  refine ⟨Nat.toDigits_ne_nil, fun c hc => ?_, Nat.ofDigitChars_ten_toDigits⟩
  have hdigit : c.isDigit = true :=
    Nat.isDigit_of_mem_toDigits (by decide) (Nat.le_refl 10) hc
  exact hdigit

theorem isBlank_of_isDigit {c : Char} (h : isDigit c = true) : isBlank c = false := by
  have hbounds : 48 ≤ c.toNat ∧ c.toNat ≤ 57 := by
    simpa [isDigit, Char.le_def, UInt32.le_iff_toNat_le] using h
  simp only [isBlank, Bool.or_eq_false_iff, Bool.and_eq_false_iff, decide_eq_false_iff_not,
    beq_eq_false_iff_ne, ne_eq]
  omega

/-! ## Numbers of a width -/

theorem toList_padded (width n : Nat) : (padded width n).toList =
    List.replicate (width - (Nat.toDigits 10 n).length) '0' ++ Nat.toDigits 10 n :=
  String.toList_ofList

theorem length_padded {width n : Nat} (hwidth : 0 < width) (h : n < 10 ^ width) :
    (padded width n).toList.length = width := by
  have hlen := Nat.toDigits_length 10 n width hwidth h
  rw [toList_padded, List.length_append, List.length_replicate]
  omega

theorem spells_padded (width n : Nat) : Spells (padded width n).toList n := by
  obtain ⟨hne, hdigits, hvalue⟩ := spells_toDigits n
  rw [toList_padded]
  refine ⟨List.append_ne_nil_of_right_ne_nil _ hne, ?_, ?_⟩
  · intro c hc
    rcases List.mem_append.1 hc with hc | hc
    · rw [List.eq_of_mem_replicate hc]
      decide
    · exact hdigits c hc
  · rw [Nat.ofDigitChars_append, Nat.ofDigitChars_replicate_zero, Nat.mul_zero]
    exact hvalue

end TenantCloud.Text.Digits
