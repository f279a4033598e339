import Mathlib.Data.List.Basic
import Mathlib.Data.List.TakeWhile
import TenantCloud.Proofs.Quantity.Denotation

/-!
# The parts of a quantity

A text is taken apart before anything is computed (`Quantity.parts?`), and its value is computed
from the parts alone (`Quantity.milli?_eq_bind`). The texts that have parts are the numerals whose
digits fit (`Quantity.parts?_eq_some_iff`).
-/

set_option autoImplicit false

namespace TenantCloud.Quantity

open Text.Digits

/-- A magnitude with the sign of the text. -/
def Parts.signed (p : Parts) (k : Nat) : Int := if p.negative then -k else k

/-- The thousandths of a mantissa under a scale, when higher bits are dropped. -/
def scaled? (mantissa places : Nat) (s : Scale) : Option Nat :=
  Id.run (Words.wrapping.scaled mantissa places s)

theorem fit?_eq_some_iff {n k : Nat} : fit? n = some k ↔ n ≤ maxMagnitude ∧ n = k := by
  unfold fit?
  split <;> simp_all

theorem scaled?_le {mantissa places k : Nat} {s : Scale} (h : scaled? mantissa places s = some k) :
    k ≤ maxMagnitude := by
  unfold scaled? Words.scaled at h
  simp only [Id.run_bind] at h
  split at h
  · simp only [Id.run_pure, Option.bind_eq_some_iff] at h
    obtain ⟨p, -, n, -, hk⟩ := h
    obtain ⟨hfit, rfl⟩ := fit?_eq_some_iff.1 hk
    exact hfit
  · split at h
    · cases h
    · rename_i n hn
      obtain ⟨hfit, rfl⟩ := fit?_eq_some_iff.1 hn
      simp only [Id.run_bind, Id.run_pure, Option.map_eq_some_iff] at h
      obtain ⟨p, -, rfl⟩ := h
      exact (Nat.div_le_self _ _).trans hfit

/-- A magnitude that fits has an opposite that fits. -/
theorem signed_of_le {p : Parts} {k : Nat} (h : k ≤ maxMagnitude) :
    Id.run (Words.wrapping.signed p k) = p.signed k := by
  unfold Words.signed Parts.signed
  split
  · have hlt : (k : Int) < 2 ^ 127 := by
      have hmax : maxMagnitude < 2 ^ 127 := by decide
      exact_mod_cast h.trans_lt hmax
    have hhalf : -((2 ^ 128 : Nat) : Int) / 2 = -2 ^ 127 := by decide
    have hhalf' : (((2 ^ 128 : Nat) : Int) + 1) / 2 = 2 ^ 127 := by decide
    show (-(k : Int)).bmod (2 ^ 128) = -k
    apply Int.bmod_eq_of_le <;> omega
  · rfl

theorem milli?_eq_bind (raw : String) :
    milli? raw = (parts? raw).bind fun p => (scaled? p.mantissa p.places p.scale).map p.signed := by
  unfold milli? Words.milli
  cases parts? raw with
  | none => rfl
  | some p =>
    have hscaled : Words.wrapping.scaled p.mantissa p.places p.scale =
        pure (scaled? p.mantissa p.places p.scale) := rfl
    show Id.run (Words.wrapping.scaled p.mantissa p.places p.scale >>= _) = Option.map _ _
    rw [hscaled]
    cases hk : scaled? p.mantissa p.places p.scale with
    | none => rfl
    | some k => exact congrArg some (signed_of_le (scaled?_le hk))

/-! ## Numerals -/

namespace Numeral

variable (n : Numeral)

/-- The digits around the point, read as one number. -/
def mantissa : Nat := Nat.ofDigitChars 10 (n.whole ++ n.frac.getD []) 0

/-- How many digits are behind the point. -/
def places : Nat := (n.frac.getD []).length

def parts (s : Scale) : Parts := ⟨decide (n.text.head? = some '-'), n.mantissa, n.places, s⟩

end Numeral

theorem exists_frac (cs : List Char) : ∃ frac : Option (List Char),
    cs = (halves cs).1 ++ frac.elim [] ('.' :: ·) ∧ frac.getD [] = (halves cs).2 := by
  induction cs with
  | nil => exact ⟨none, rfl, rfl⟩
  | cons c cs ih =>
    by_cases hc : c = '.'
    · subst hc
      exact ⟨some cs, rfl, rfl⟩
    · obtain ⟨frac, htext, hfrac⟩ := ih
      have hhalves : halves (c :: cs) = (c :: (halves cs).1, (halves cs).2) := by
        simp [halves, hc]
      rw [hhalves]
      exact ⟨frac, congrArg (c :: ·) htext, hfrac⟩

variable {raw : String}

/-- A numeral is taken apart into its digits and its scale. -/
theorem parts?_numeral {n : Numeral} {s : Scale} (h : n.text = Text.trimChars raw.toList)
    (hs : scale? n.suffix = some s) : parts? raw = (fit? n.mantissa).map fun _ => n.parts s := by
  obtain ⟨hnumber, hsuffix⟩ := n.text_parts
  have hread : read? (n.whole ++ n.frac.getD []) = some n.mantissa :=
    read?_eq_some_iff.2 ⟨n.nonempty, n.isDigit, rfl⟩
  have hne : n.signs ++ n.digits ≠ [] := List.append_ne_nil_of_right_ne_nil _ n.digits_ne_nil
  have hhead : n.text.head? = (n.signs ++ n.digits).head? := by
    unfold Numeral.text
    rw [List.head?_append_of_ne_nil _ hne]
  unfold parts? Numeral.parts
  rw [← h]
  dsimp only
  rw [hnumber, hsuffix, hs, n.dropWhile_isSign, n.halves_digits, ← hhead,
    List.isEmpty_eq_false_iff.2 hne]
  dsimp only
  rw [hread]
  show (fit? n.mantissa).bind _ = _
  cases hfit : fit? n.mantissa with
  | none => rfl
  | some k =>
    obtain ⟨-, rfl⟩ := fit?_eq_some_iff.1 hfit
    rfl

/-- What has parts is a numeral. -/
theorem exists_numeral_of_parts? {p : Parts} (h : parts? raw = some p) :
    ∃ (n : Numeral) (s : Scale), n.text = Text.trimChars raw.toList ∧ scale? n.suffix = some s := by
  unfold parts? at h
  generalize Text.trimChars raw.toList = cs at h ⊢
  simp only [Option.bind_eq_bind, Option.bind_eq_some_iff] at h
  obtain ⟨-, -, s, hs, -, ⟨mantissa, hread, -⟩, -⟩ := h
  obtain ⟨hne, hdigits, -⟩ := read?_eq_some_iff.1 hread
  obtain ⟨frac, htext, hfrac⟩ := exists_frac ((cs.takeWhile isNumeric).dropWhile isSign)
  refine ⟨{
    signs := (cs.takeWhile isNumeric).takeWhile isSign
    whole := (halves ((cs.takeWhile isNumeric).dropWhile isSign)).1
    frac := frac
    suffix := cs.dropWhile isNumeric
    scale := s.value
    isSign := fun c hc => by simpa [isSign] using List.mem_takeWhile_imp hc
    isDigit := hfrac ▸ hdigits
    nonempty := hfrac ▸ hne
    scales := scales_of_scale? hs }, s, ?_, hs⟩
  unfold Numeral.text Numeral.digits
  rw [← htext, List.takeWhile_append_dropWhile, List.takeWhile_append_dropWhile]

/-- What has parts is a numeral whose digits fit. -/
theorem parts?_eq_some_iff {p : Parts} : parts? raw = some p ↔
    ∃ (n : Numeral) (s : Scale), n.text = Text.trimChars raw.toList ∧ scale? n.suffix = some s ∧
      n.mantissa ≤ maxMagnitude ∧ n.parts s = p := by
  constructor
  · intro h
    obtain ⟨n, s, htext, hs⟩ := exists_numeral_of_parts? h
    rw [parts?_numeral htext hs, Option.map_eq_some_iff] at h
    obtain ⟨mantissa, hfit, hparts⟩ := h
    exact ⟨n, s, htext, hs, (fit?_eq_some_iff.1 hfit).1, hparts⟩
  · rintro ⟨n, s, htext, hs, hfit, rfl⟩
    rw [parts?_numeral htext hs, fit?_eq_some_iff.2 ⟨hfit, rfl⟩]
    rfl

end TenantCloud.Quantity
