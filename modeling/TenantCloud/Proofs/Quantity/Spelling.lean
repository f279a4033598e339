import TenantCloud.Proofs.Quantity.Exactness

/-!
# Quantities that are written

A whole number with a binary unit is read back as what it is, as long as its thousandths fit
(`Quantity.milli?_whole`).
-/

set_option autoImplicit false

namespace TenantCloud.Quantity

open Text.Digits

theorem trimChars_of_no_blank {cs : List Char} (h : ∀ c ∈ cs, Text.isBlank c = false) :
    Text.trimChars cs = cs := by
  apply Text.Trimmed.trimChars_eq
  constructor
  · intro c hc
    exact h c (List.mem_of_head? hc)
  · intro c hc
    exact h c (List.mem_of_getLast? hc)

/-- A whole number with a unit. -/
def Numeral.ofNat (n : Nat) {unit : List Char} {scale : ℚ} (h : Scales unit scale) : Numeral where
  signs := []
  whole := Nat.toDigits 10 n
  frac := none
  suffix := unit
  scale := scale
  isSign := by simp
  isDigit c hc := (spells_toDigits n).digits c (by simpa using hc)
  nonempty := by simp
  scales := h

theorem text_ofNat (n : Nat) {unit : List Char} {scale : ℚ} (h : Scales unit scale) :
    (Numeral.ofNat n h).text = Nat.toDigits 10 n ++ unit := by
  simp [Numeral.text, Numeral.digits, Numeral.ofNat]

theorem signed_ofNat (n k : Nat) {unit : List Char} {scale : ℚ} (h : Scales unit scale) :
    (Numeral.ofNat n h).signed k = k := by
  obtain ⟨hne, hdigits, -⟩ := spells_toDigits n
  refine if_neg fun hhead => ?_
  rw [text_ofNat, List.head?_append_of_ne_nil _ hne] at hhead
  cases hdigits '-' (List.mem_of_head? hhead)

/-- A whole number with a binary unit is read back, as long as its thousandths fit. -/
theorem milli?_whole {n factor : Nat} {unit : String}
    (hunit : scale? unit.toList = some ⟨factor, 0⟩)
    (hblank : unit.toList.any Text.isBlank = false) (hfactor : 0 < factor)
    (hfit : n * 1000 * factor ≤ maxMagnitude) :
    milli? (toString n ++ unit) = some ((n * 1000 * factor : Nat) : Int) := by
  let written := Numeral.ofNat n (scales_of_scale? hunit)
  have htext : written.text = Text.trimChars (toString n ++ unit).toList := by
    rw [String.toList_append, Nat.toString_eq_ofList_toDigits, String.toList_ofList,
      trimChars_of_no_blank, text_ofNat]
    intro c hc
    rcases List.mem_append.1 hc with hc | hc
    · exact isBlank_of_isDigit ((spells_toDigits n).digits c hc)
    · exact Bool.eq_false_of_not_eq_true (List.any_eq_false.1 hblank c hc)
  have hvalue : Nat.ofDigitChars 10 (written.whole ++ written.frac.getD []) 0 = n := by
    rw [show written.whole ++ written.frac.getD [] = Nat.toDigits 10 n from List.append_nil _]
    exact (spells_toDigits n).value
  have hthousand : n * 1000 ≤ maxMagnitude := (Nat.le_mul_of_pos_right _ hfactor).trans hfit
  have hn : fit? n = some n := fit?_eq_some_iff.2 ⟨by omega, rfl⟩
  have hscaled : scaled? n 0 ⟨factor, 0⟩ = some (n * 1000 * factor) := by
    have hpower : (⟨factor, 0⟩ : Scale).shift 0 = 3 := shift_of_fits (by dsimp only; omega)
    rw [scaled?_eq_of_nonneg (by rw [hpower]; decide), hpower]
    show (fit? (n * 1000)).bind (fun n => fit? (n * factor)) = _
    rw [fit?_eq_some_iff.2 ⟨hthousand, rfl⟩]
    exact fit?_eq_some_iff.2 ⟨hfit, rfl⟩
  have hplaces : (written.frac.getD []).length = 0 := rfl
  rw [milli?_numeral htext hunit, hvalue, hn, hplaces, Option.bind_some, hscaled, Option.map_some,
    signed_ofNat]

end TenantCloud.Quantity
