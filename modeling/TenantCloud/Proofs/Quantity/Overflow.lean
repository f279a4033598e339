import TenantCloud.Proofs.Quantity.Exactness

/-!
# Results that leave their words

A build that checks its arithmetic reads a text as any other, but stops at the first operation whose
result its word does not hold (`Quantity.Words.checked`). Only a written exponent at the ends of 32
bits leads there (`Quantity.Numeral.IsExtreme`), and such a text has no value when the higher bits
are dropped either (`Quantity.fits_words_iff`).
-/

set_option autoImplicit false

namespace TenantCloud.Quantity

open Text.Digits

/-! ## Powers in 32 bits -/

/-- The power of ten fits 32 bits at each step, and so does its opposite. -/
def Scale.Fits (s : Scale) (places : Nat) : Prop :=
  s.exponent + 3 < 2 ^ 31 ∧ -2 ^ 31 < s.exponent + 3 - places

section

variable {o : Operation} {mantissa places : Nat} {n : Int} {s : Scale}

theorem checked_of_fits (ho : o ≠ .negation) (h : -2 ^ 31 ≤ n ∧ n < 2 ^ 31) :
    Words.checked.keep o n = .ok n := by
  cases o with
  | negation => exact absurd rfl ho
  | sum | difference | opposite => exact if_pos h

theorem checked_of_not_fits (ho : o ≠ .negation) (h : ¬(-2 ^ 31 ≤ n ∧ n < 2 ^ 31)) :
    Words.checked.keep o n = .error o := by
  cases o with
  | negation => exact absurd rfl ho
  | sum | difference | opposite => exact if_neg h

theorem scaled_of_fits (he : -2 ^ 31 ≤ s.exponent) (hp : places < 2 ^ 30) (h : s.Fits places) :
    Words.checked.scaled mantissa places s = .ok (scaled? mantissa places s) := by
  obtain ⟨hsum, hdifference⟩ := h
  have hplaces : wrap32 places = places := wrap32_of_fits (by omega)
  have hshift : s.shift places = s.exponent + 3 - places := shift_of_fits (by omega)
  unfold Words.scaled
  rw [checked_of_fits (by decide) (by omega), hplaces]
  show (Words.checked.keep .difference (s.exponent + 3 - places) >>= _) = _
  rw [checked_of_fits (by decide) (by omega), ← hshift]
  show (if 0 ≤ s.shift places then _ else _) = _
  split
  · rename_i hpos
    rw [scaled?_eq_of_nonneg hpos]
    rfl
  · rename_i hneg
    rw [scaled?_eq_of_neg (by omega)]
    cases fit? (mantissa * s.factor) with
    | none => rfl
    | some n =>
      show (Words.checked.keep .opposite (-s.shift places) >>= _) = _
      rw [checked_of_fits (by decide) (by omega)]
      show Except.ok ((powerOfTen? (-s.shift places).natAbs).map (n / ·)) = _
      rw [Int.natAbs_neg]
      rfl

/-- One of the three operations of 32 bits stops the reading. -/
theorem scaled_of_not_fits (hp : places < 2 ^ 30) (hfit : mantissa * s.factor ≤ maxMagnitude)
    (he : -2 ^ 31 ≤ s.exponent) (h : ¬s.Fits places) :
    ∃ o, o ≠ .negation ∧ Words.checked.scaled mantissa places s = .error o := by
  have hplaces : wrap32 places = places := wrap32_of_fits (by omega)
  unfold Words.scaled
  by_cases hsum : s.exponent + 3 < 2 ^ 31
  · rw [checked_of_fits (by decide) (by omega), hplaces]
    show ∃ o, o ≠ _ ∧ (Words.checked.keep .difference (s.exponent + 3 - places) >>= _) = _
    by_cases hdifference : -2 ^ 31 ≤ s.exponent + 3 - places
    · have hpower : s.exponent + 3 - places = -2 ^ 31 := by
        unfold Scale.Fits at h
        omega
      rw [checked_of_fits (by decide) (by omega), hpower]
      refine ⟨.opposite, nofun, ?_⟩
      rw [fit?_eq_some_iff.2 ⟨hfit, rfl⟩]
      rfl
    · rw [checked_of_not_fits (by decide) (by omega)]
      exact ⟨.difference, nofun, rfl⟩
  · rw [checked_of_not_fits (by decide) (by omega)]
    exact ⟨.sum, nofun, rfl⟩

/-- Where the power does not fit, there is no value when higher bits are dropped either. -/
theorem scaled?_of_not_fits (hp : places < 2 ^ 30)
    (he : -2 ^ 31 ≤ s.exponent ∧ s.exponent < 2 ^ 31) (h : ¬s.Fits places) :
    scaled? mantissa places s = none := by
  rw [Option.eq_none_iff_forall_ne_some]
  intro k hk
  obtain ⟨hmax, -⟩ := scaled?_floor hk
  rw [shift_eq he (by omega) hmax] at hmax
  unfold maxPower at hmax
  unfold Scale.Fits at h
  omega

end

/-- The opposite of a magnitude always fits. -/
theorem checked_signed_of_le {p : Parts} {k : Nat} (h : k ≤ maxMagnitude) :
    Words.checked.signed p k = .ok (p.signed k) := by
  have hmax : (k : Int) < 2 ^ 127 := by
    have hlt : k < 2 ^ 127 := Nat.lt_of_le_of_lt h (by decide)
    exact_mod_cast hlt
  have hfits : -2 ^ 127 ≤ -(k : Int) ∧ -(k : Int) < 2 ^ 127 := by omega
  unfold Words.signed Parts.signed
  split
  · exact if_pos hfits
  · rfl

/-! ## Extreme exponents -/

/-- The digits fit, and so does the written exponent, but not with the three of the thousandths, or
not less the digits behind the point. -/
structure Numeral.IsExtreme (n : Numeral) : Prop where
  digits : n.mantissa ≤ maxMagnitude
  exponent : ∃ c cs e, n.suffix = c :: cs ∧ (c = 'e' ∨ c = 'E') ∧ SpellsSigned cs e ∧
    (e < 2 ^ 31 ∧ 2 ^ 31 ≤ e + 3 ∨ -2 ^ 31 ≤ e ∧ e + 3 - n.places ≤ -2 ^ 31)

variable {raw : String}

theorem isExtreme_iff {n : Numeral} {s : Scale} (hs : scale? n.suffix = some s)
    (hp : n.places < 2 ^ 30) :
    n.IsExtreme ↔ n.mantissa ≤ maxMagnitude ∧ ¬s.Fits n.places := by
  unfold Scale.Fits
  constructor
  · rintro ⟨hdigits, c, cs, e, hsuffix, hc, hspells, hextreme⟩
    have he : exponent? cs = some e := exponent?_eq_some_iff.2 ⟨hspells, by omega, by omega⟩
    rw [hsuffix, scale?_of_exponent? hc he] at hs
    cases hs
    refine ⟨hdigits, ?_⟩
    dsimp only
    omega
  · rintro ⟨hdigits, hextreme⟩
    obtain ⟨-, hlow, hhigh⟩ | ⟨-, c, cs, hsuffix, hc, he⟩ := scale?_cases hs
    · omega
    · obtain ⟨hspells, hlow, hhigh⟩ := exponent?_eq_some_iff.1 he
      exact ⟨hdigits, c, cs, s.exponent, hsuffix, hc, hspells, by omega⟩

/-- A text has an extreme exponent just where its parts have a power that does not fit. -/
theorem exists_extreme_iff (hsize : raw.utf8ByteSize < 2 ^ 30) :
    (∃ n : Numeral, n.text = Text.trimChars raw.toList ∧ n.IsExtreme) ↔
      ∃ p, parts? raw = some p ∧ ¬p.scale.Fits p.places := by
  constructor
  · rintro ⟨n, htext, hextreme⟩
    obtain ⟨s, hs, -⟩ := scale?_of_scales n.scales
    obtain ⟨hdigits, hfits⟩ := (isExtreme_iff hs (n.places_lt htext hsize)).1 hextreme
    exact ⟨n.parts s, parts?_eq_some_iff.2 ⟨n, s, htext, hs, hdigits, rfl⟩, hfits⟩
  · rintro ⟨p, hparts, hfits⟩
    obtain ⟨n, s, htext, hs, hdigits, rfl⟩ := parts?_eq_some_iff.1 hparts
    exact ⟨n, htext, (isExtreme_iff hs (n.places_lt htext hsize)).2 ⟨hdigits, hfits⟩⟩

theorem milli_of_fits (hsize : raw.utf8ByteSize < 2 ^ 30)
    (h : ∀ p, parts? raw = some p → p.scale.Fits p.places) :
    Words.checked.milli raw = .ok (milli? raw) := by
  rw [milli?_eq_bind]
  unfold Words.milli
  cases hparts : parts? raw with
  | none => rfl
  | some p =>
    obtain ⟨n, s, htext, hs, hdigits, rfl⟩ := parts?_eq_some_iff.1 hparts
    have hfits : s.Fits n.places := h _ hparts
    have hscaled : Words.checked.scaled n.mantissa n.places s =
        .ok (scaled? n.mantissa n.places s) :=
      scaled_of_fits (exponent_of_scale? hs).1 (n.places_lt htext hsize) hfits
    show (Words.checked.scaled n.mantissa n.places s >>= _) =
      .ok ((scaled? n.mantissa n.places s).map _)
    rw [hscaled]
    cases hk : scaled? n.mantissa n.places s with
    | none => rfl
    | some k =>
      show (Words.checked.signed (n.parts s) k >>= _) = _
      rw [checked_signed_of_le (scaled?_le hk)]
      rfl

theorem milli_of_not_fits (hsize : raw.utf8ByteSize < 2 ^ 30) {p : Parts}
    (hparts : parts? raw = some p) (h : ¬p.scale.Fits p.places) :
    milli? raw = none ∧ ∃ o, o ≠ .negation ∧ Words.checked.milli raw = .error o := by
  obtain ⟨n, s, htext, hs, hdigits, rfl⟩ := parts?_eq_some_iff.1 hparts
  have he := exponent_of_scale? hs
  have hp := n.places_lt htext hsize
  -- Units have powers that fit, so nothing but the exponent scales the digits.
  have hfit : n.mantissa * s.factor ≤ maxMagnitude := by
    obtain ⟨-, hlow, hhigh⟩ | ⟨hone, -⟩ := scale?_cases hs
    · refine absurd ?_ h
      show s.Fits n.places
      unfold Scale.Fits
      omega
    · rwa [hone, Nat.mul_one]
  obtain ⟨o, ho, hstop⟩ := scaled_of_not_fits hp hfit he.1 h
  constructor
  · rw [milli?_eq_bind, hparts]
    show (scaled? n.mantissa n.places s).map _ = none
    rw [scaled?_of_not_fits hp he h]
    rfl
  · refine ⟨o, ho, ?_⟩
    unfold Words.milli
    rw [hparts]
    show (Words.checked.scaled n.mantissa n.places s >>= _) = _
    rw [hstop]
    rfl

/-- **Where reading stays in its words.** Every operation of the reading fits its word but in a text
with an extreme exponent, and then the reading gives the value of the text. An opposite in 128 bits
always fits. Where another operation does not, the text has no value when the higher bits are
dropped. -/
theorem fits_words_iff (hsize : raw.utf8ByteSize < 2 ^ 30) :
    ((∃ r, Words.checked.milli raw = .ok r) ↔
      ¬∃ n : Numeral, n.text = Text.trimChars raw.toList ∧ n.IsExtreme) ∧
      (∀ r, Words.checked.milli raw = .ok r → r = milli? raw) ∧
        ∀ o, Words.checked.milli raw = .error o → o ≠ .negation ∧ milli? raw = none := by
  rw [exists_extreme_iff hsize]
  by_cases hextreme : ∃ p, parts? raw = some p ∧ ¬p.scale.Fits p.places
  · obtain ⟨p, hparts, hfits⟩ := hextreme
    obtain ⟨hnone, o, ho, hstop⟩ := milli_of_not_fits hsize hparts hfits
    rw [hstop]
    refine ⟨⟨nofun, fun h => absurd ⟨p, hparts, hfits⟩ h⟩, nofun, fun o' ho' => ?_⟩
    cases ho'
    exact ⟨ho, hnone⟩
  · have hfits : ∀ p, parts? raw = some p → p.scale.Fits p.places := by
      intro p hparts
      by_contra hfits
      exact hextreme ⟨p, hparts, hfits⟩
    rw [milli_of_fits hsize hfits]
    refine ⟨⟨fun _ => hextreme, fun _ => ⟨_, rfl⟩⟩, fun r hr => ?_, nofun⟩
    cases hr
    rfl

/-- The greatest exponents of 32 bits do not fit with the three of the thousandths. -/
theorem fits_words_iff_sum : "1e2147483645".utf8ByteSize < 2 ^ 30 ∧
    Words.checked.milli "1e2147483645" = .error .sum ∧ milli? "1e2147483645" = none := by
  have hsize : "1e2147483645".utf8ByteSize < 2 ^ 30 := by decide
  have hstop : Words.checked.milli "1e2147483645" = .error .sum := by decide
  exact ⟨hsize, hstop, ((fits_words_iff hsize).2.2 _ hstop).2⟩

/-- A power of minus 2 ^ 31 has no opposite in 32 bits. -/
theorem opposite_leaves_word : "0.001e-2147483648".utf8ByteSize < 2 ^ 30 ∧
    Words.checked.milli "0.001e-2147483648" = .error .opposite := by
  decide

end TenantCloud.Quantity
