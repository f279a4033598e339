import TenantCloud.Proofs.Quantity.Exactness

/-!
# Quantities below a thousandth

What is below a thousandth is cut off to zero, but not whatever it is written with: the power of ten
that its digits are scaled by has to fit, although nothing of it is left in the result
(`Quantity.milli?_eq_zero_iff`). So a number may be too small to have a value
(`Quantity.tiny_has_no_value`).
-/

set_option autoImplicit false

namespace TenantCloud.Quantity

open Text.Digits

variable {raw : String} {n : Numeral} {s : Scale} {mantissa places : Nat}

/-! ## Powers of ten -/

theorem factor_pos {cs : List Char} (h : scale? cs = some s) : 0 < s.factor := by
  obtain ⟨hpos, -⟩ | ⟨hone, -⟩ := scale?_cases h
  · exact hpos
  · omega

/-- A power that fits is computed with as it is. -/
theorem shift_of_le (h : (s.exponent + 3 - places).natAbs ≤ maxPower) :
    s.shift places = s.exponent + 3 - places := by
  unfold maxPower at h
  apply shift_of_fits
  omega

/-- What is below one by itself is zero as soon as its power of ten fits. -/
theorem scaled?_eq_zero_iff (hfactor : 0 < s.factor) :
    (fit? mantissa).bind (scaled? · places s) = some 0 ↔ (s.shift places).natAbs ≤ maxPower ∧
      ((mantissa * s.factor : Nat) : ℚ) * 10 ^ s.shift places < 1 := by
  constructor
  · intro h
    obtain ⟨k, hk, h⟩ := Option.bind_eq_some_iff.1 h
    obtain ⟨-, rfl⟩ := fit?_eq_some_iff.1 hk
    obtain ⟨hmax, hfloor⟩ := scaled?_floor h
    exact ⟨hmax, (Int.floor_eq_zero_iff.1 hfloor.symm).2⟩
  · rintro ⟨hmax, hlt⟩
    have hle : mantissa ≤ mantissa * s.factor := Nat.le_mul_of_pos_right _ hfactor
    rcases lt_or_ge (s.shift places) 0 with hneg | hpos
    · -- The digits stay below the divisor, which fits.
      have hshift : s.shift places = -((s.shift places).natAbs : ℤ) := by omega
      have hdigits : mantissa * s.factor < 10 ^ (s.shift places).natAbs := by
        rw [hshift, zpow_neg, zpow_natCast, ← div_eq_mul_inv, div_lt_one (by positivity)] at hlt
        exact_mod_cast hlt
      have hpower : 10 ^ (s.shift places).natAbs ≤ maxMagnitude :=
        (Nat.pow_le_pow_right (by decide) hmax).trans (by decide)
      rw [fit?_eq_some_iff.2 ⟨by omega, rfl⟩]
      exact (scaled?_of_neg hneg).2 ⟨hmax, by omega, Nat.div_eq_of_lt hdigits⟩
    · have hshift : s.shift places = ((s.shift places).natAbs : ℤ) := by omega
      have hzero : mantissa = 0 := by
        rw [hshift, zpow_natCast] at hlt
        have hnat : mantissa * s.factor * 10 ^ (s.shift places).natAbs < 1 := by exact_mod_cast hlt
        have hpower : 0 < 10 ^ (s.shift places).natAbs := by positivity
        have hproduct := Nat.le_mul_of_pos_right (mantissa * s.factor) hpower
        omega
      subst hzero
      rw [fit?_eq_some_iff.2 ⟨Nat.zero_le _, rfl⟩]
      refine (scaled?_of_nonneg hpos).2 ⟨hmax, ?_, ?_, ?_⟩ <;> simp

/-! ## Small numerals -/

theorem Numeral.abs_value (n : Numeral) : |n.value| = n.magnitude * n.scale := by
  have hmagnitude : 0 ≤ n.magnitude := by
    unfold Numeral.magnitude
    positivity
  have hsign : |(if n.text.head? = some '-' then -1 else 1 : ℚ)| = 1 := by
    split <;> simp
  unfold Numeral.value
  rw [abs_mul, abs_mul, hsign, one_mul, abs_of_nonneg hmagnitude,
    abs_of_nonneg (scale_nonneg n.scales)]

/-- The exact number of thousandths, without its sign. -/
theorem abs_value_eq (hs : scale? n.suffix = some s) : |n.value| * 1000 =
    ((n.mantissa * s.factor : Nat) : ℚ) * 10 ^ (s.exponent + 3 - n.places) := by
  obtain ⟨s', hs', hscale⟩ := scale?_of_scales n.scales
  obtain rfl : s' = s := Option.some.inj (hs'.symm.trans hs)
  rw [n.abs_value, magnitude_eq, ← hscale]
  exact thousandths_eq n.mantissa n.places s'

theorem milli?_eq_zero (htext : n.text = Text.trimChars raw.toList)
    (hs : scale? n.suffix = some s) : milli? raw = some 0 ↔
      (fit? n.mantissa).bind (scaled? · n.places s) = some 0 := by
  have hsigned : ∀ k, n.signed k = 0 ↔ k = 0 := by
    intro k
    unfold Numeral.signed
    split <;> omega
  rw [milli?_numeral htext hs, Option.map_eq_some_iff]
  constructor
  · rintro ⟨k, hk, hzero⟩
    rw [hsigned] at hzero
    subst hzero
    exact hk
  · intro h
    exact ⟨0, h, (hsigned 0).2 rfl⟩

/-- **Which quantities below a thousandth are zero.** Those whose digits are below a thousandth once
they are scaled by a power of ten that fits. In a text of less than a gibibyte this is a matter of
the power alone, and what has a power that does not fit has no value. -/
theorem milli?_eq_zero_iff (htext : n.text = Text.trimChars raw.toList)
    (hs : scale? n.suffix = some s) (hsmall : |n.value| < 1 / 1000) :
    (milli? raw = some 0 ↔ (s.shift n.places).natAbs ≤ maxPower ∧
        ((n.mantissa * s.factor : Nat) : ℚ) * 10 ^ s.shift n.places < 1) ∧
      (raw.utf8ByteSize < 2 ^ 30 → milli? raw =
        if (s.exponent + 3 - n.places).natAbs ≤ maxPower then some 0 else none) := by
  have hzero : milli? raw = some 0 ↔ (s.shift n.places).natAbs ≤ maxPower ∧
      ((n.mantissa * s.factor : Nat) : ℚ) * 10 ^ s.shift n.places < 1 :=
    (milli?_eq_zero htext hs).trans (scaled?_eq_zero_iff (factor_pos hs))
  refine ⟨hzero, fun hsize => ?_⟩
  split
  · rename_i hmax
    have hlt : ((n.mantissa * s.factor : Nat) : ℚ) * 10 ^ (s.exponent + 3 - n.places) < 1 := by
      rw [← abs_value_eq hs]
      linarith
    rw [hzero, shift_of_le hmax]
    exact ⟨hmax, hlt⟩
  · rename_i hmax
    rw [milli?_numeral htext hs, Option.map_eq_none_iff, Option.eq_none_iff_forall_ne_some]
    intro k hk
    obtain ⟨m, -, hscaled⟩ := Option.bind_eq_some_iff.1 hk
    obtain ⟨hshift, -⟩ := scaled?_floor hscaled
    have hplaces : n.places < 2 ^ 31 - 35 := (n.places_lt htext hsize).trans (by decide)
    rw [← shift_eq (exponent_of_scale? hs) hplaces hshift] at hmax
    exact hmax hshift

theorem no_signs : ∀ c ∈ ([] : List Char), c = '+' ∨ c = '-' := List.forall_mem_nil _

/-- One over a power of ten. -/
def Numeral.tenths (e : Nat) (h : e < 2 ^ 31) : Numeral where
  signs := []
  whole := ['1']
  frac := none
  suffix := 'e' :: '-' :: Nat.toDigits 10 e
  scale := 10 ^ (-e : ℤ)
  isSign := no_signs
  isDigit := List.all_eq_true.1 rfl
  nonempty := nofun
  scales := .exponent (.inl rfl) (.minus (spells_toDigits e)) (by omega) (by omega)

theorem value_tenths (e : Nat) (h : e < 2 ^ 31) : (Numeral.tenths e h).value = 10 ^ (-e : ℤ) := by
  have hmagnitude : (Numeral.tenths e h).magnitude = 1 := by
    have hvalue : (Numeral.tenths e h).magnitude = (1 : Nat) + (0 : Nat) / 10 ^ 0 := rfl
    rw [hvalue]
    norm_num
  have hhead : (Numeral.tenths e h).text.head? ≠ some '-' := by
    show some '1' ≠ some '-'
    decide
  unfold Numeral.value
  rw [if_neg hhead, hmagnitude, one_mul, one_mul]
  rfl

theorem abs_value_tenths {e : Nat} (h : e < 2 ^ 31) (hsmall : 3 < e) :
    |(Numeral.tenths e h).value| < 1 / 1000 := by
  have hten : (1 : ℚ) < 10 := by norm_num
  have hthousandth : (1 / 1000 : ℚ) = 10 ^ (-3 : ℤ) := by norm_num
  have hlt : (10 : ℚ) ^ (-e : ℤ) < 10 ^ (-3 : ℤ) := zpow_lt_zpow_right₀ hten (by omega)
  rw [value_tenths, abs_of_pos (by positivity), hthousandth]
  exact hlt

theorem milli?_eq_zero_iff_tenths :
    (Numeral.tenths 41 (by decide)).text = Text.trimChars "1e-41".toList ∧
      scale? (Numeral.tenths 41 (by decide)).suffix = some ⟨1, -41⟩ ∧
        |(Numeral.tenths 41 (by decide)).value| < 1 / 1000 ∧ "1e-41".utf8ByteSize < 2 ^ 30 ∧
          milli? "1e-41" = some 0 := by
  have htext : (Numeral.tenths 41 (by decide)).text = Text.trimChars "1e-41".toList := by decide
  have hs : scale? (Numeral.tenths 41 (by decide)).suffix = some ⟨1, -41⟩ := by decide
  have hsmall := abs_value_tenths (e := 41) (by decide) (by decide)
  have hsize : "1e-41".utf8ByteSize < 2 ^ 30 := by decide
  have hmilli := (milli?_eq_zero_iff htext hs hsmall).2 hsize
  rw [if_pos (by decide)] at hmilli
  exact ⟨htext, hs, hsmall, hsize, hmilli⟩

/-- The next smaller power of ten is as well below a thousandth, but it has no value. -/
theorem tiny_has_no_value : ∃ n : Numeral, n.text = Text.trimChars "1e-42".toList ∧
    n.signs.length ≤ 1 ∧ |n.value| < 1 / 1000 ∧ milli? "1e-42" = none :=
  ⟨.tenths 42 (by decide), by decide, by decide, abs_value_tenths (by decide) (by decide),
    by decide⟩

end TenantCloud.Quantity
