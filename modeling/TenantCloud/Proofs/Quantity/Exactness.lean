import Mathlib.Algebra.Order.Field.Power
import Mathlib.Data.Rat.Floor
import Mathlib.Data.String.Basic
import Mathlib.Tactic.FieldSimp
import Mathlib.Tactic.Ring
import TenantCloud.Proofs.Quantity.Parts
import TenantCloud.Proofs.Text.Blank

/-!
# Quantities are read exactly

Whatever is read is a numeral (`Quantity.exists_numeral`), and reading a numeral comes down to one
computation with its digits and its scale (`Quantity.milli?_numeral`). That computation neither
rounds in between nor is it misled by sums of 32 bits (`Quantity.scaled?_eq_floor`), so the result
is the number that the text stands for in thousandths, cut off toward zero
(`Quantity.milli?_exact`).
-/

set_option autoImplicit false

namespace TenantCloud.Quantity

open Text.Digits

/-- A number without what is behind the point. -/
def truncated (q : ℚ) : ℤ := if q < 0 then ⌈q⌉ else ⌊q⌋

theorem truncated_of_nonneg {q : ℚ} (h : 0 ≤ q) : truncated q = ⌊q⌋ := if_neg (not_lt.2 h)

theorem truncated_neg {q : ℚ} (h : 0 ≤ q) : truncated (-q) = -⌊q⌋ := by
  unfold truncated
  split
  · exact Int.ceil_neg
  · rename_i hneg
    have hzero : q = 0 := by linarith
    simp [hzero]

/-! ## The parts that are read -/

/-- Whatever is read is a numeral. -/
theorem exists_numeral {raw : String} {m : Int} (h : milli? raw = some m) :
    ∃ n : Numeral, n.text = Text.trimChars raw.toList := by
  rw [milli?_eq_bind, Option.bind_eq_some_iff] at h
  obtain ⟨p, hp, -⟩ := h
  obtain ⟨n, -, htext, -⟩ := exists_numeral_of_parts? hp
  exact ⟨n, htext⟩

/-- A magnitude with the sign of the text. -/
def Numeral.signed (n : Numeral) (k : Nat) : Int := if n.text.head? = some '-' then -k else k

/-- Reading a numeral is a computation with its digits and its scale. -/
theorem milli?_numeral {raw : String} {n : Numeral} {s : Scale}
    (h : n.text = Text.trimChars raw.toList) (hs : scale? n.suffix = some s) :
    milli? raw = ((fit? (Nat.ofDigitChars 10 (n.whole ++ n.frac.getD []) 0)).bind
      (scaled? · (n.frac.getD []).length s)).map n.signed := by
  have hsigned : (n.parts s).signed = n.signed := by
    funext k
    unfold Parts.signed Numeral.signed Numeral.parts
    simp only [decide_eq_true_eq]
  rw [milli?_eq_bind, parts?_numeral h hs]
  show _ = ((fit? n.mantissa).bind (scaled? · n.places s)).map n.signed
  cases hfit : fit? n.mantissa with
  | none => rfl
  | some k =>
    obtain ⟨-, rfl⟩ := fit?_eq_some_iff.1 hfit
    rw [← hsigned]
    rfl

/-! ## The computation -/

theorem exponent_of_scale? {cs : List Char} {s : Scale} (h : scale? cs = some s) :
    -2 ^ 31 ≤ s.exponent ∧ s.exponent < 2 ^ 31 := by
  obtain ⟨-, hlow, hhigh⟩ | ⟨-, c, rest, -, -, he⟩ := scale?_cases h
  · omega
  · exact (exponent?_eq_some_iff.1 he).2

theorem exists_wrap32 (n : Int) : ∃ k, wrap32 n = n + 2 ^ 32 * k :=
  ⟨-n.bdiv (Nat.pow 2 32), by
    rw [wrap32, Int.bmod_eq_self_sub_mul_bdiv, Int.mul_neg, ← Int.sub_eq_add_neg]
    rfl⟩

theorem wrap32_fits (n : Int) : -2 ^ 31 ≤ wrap32 n ∧ wrap32 n < 2 ^ 31 :=
  ⟨Int.le_bmod (by decide), Int.bmod_lt (by decide)⟩

theorem wrap32_of_fits {n : Int} (h : -2 ^ 31 ≤ n ∧ n < 2 ^ 31) : wrap32 n = n := by
  obtain ⟨k, hk⟩ := exists_wrap32 n
  have hfits := wrap32_fits n
  omega

/-- The opposite that drops higher bits is as large as an exact one. -/
theorem natAbs_wrap32_neg {n : Int} (h : -2 ^ 31 ≤ n ∧ n < 2 ^ 31) :
    (wrap32 (-n)).natAbs = n.natAbs := by
  obtain ⟨k, hk⟩ := exists_wrap32 (-n)
  have hfits := wrap32_fits (-n)
  omega

/-- The power of ten between a mantissa and its thousandths, as sums of 32 bits leave it. -/
def Scale.shift (s : Scale) (places : Nat) : Int :=
  wrap32 (wrap32 (s.exponent + 3) - wrap32 places)

theorem shift_fits (s : Scale) (places : Nat) :
    -2 ^ 31 ≤ s.shift places ∧ s.shift places < 2 ^ 31 := wrap32_fits _

theorem exists_shift (s : Scale) (places : Nat) :
    ∃ k, s.shift places = s.exponent + 3 - places + 2 ^ 32 * k := by
  obtain ⟨k, hk⟩ := exists_wrap32 (s.exponent + 3)
  obtain ⟨k', hk'⟩ := exists_wrap32 places
  obtain ⟨k'', hk''⟩ := exists_wrap32 (wrap32 (s.exponent + 3) - wrap32 places)
  refine ⟨k - k' + k'', ?_⟩
  rw [Scale.shift, hk'', hk, hk']
  ring

theorem shift_of_fits {s : Scale} {places : Nat}
    (h : -2 ^ 31 ≤ s.exponent + 3 - places ∧ s.exponent + 3 - places < 2 ^ 31) :
    s.shift places = s.exponent + 3 - places := by
  obtain ⟨k, hk⟩ := exists_shift s places
  have hfits := shift_fits s places
  omega

/-- A power that is computed with is not wrapped around. With one place more it may be: the least
exponent of 32 bits gives the greatest power that fits. -/
theorem shift_eq {s : Scale} {places : Nat} (he : -2 ^ 31 ≤ s.exponent ∧ s.exponent < 2 ^ 31)
    (hp : places < 2 ^ 31 - 35) (h : (s.shift places).natAbs ≤ maxPower) :
    s.shift places = s.exponent + 3 - places := by
  obtain ⟨k, hk⟩ := exists_shift s places
  rw [hk] at h ⊢
  unfold maxPower at h
  omega

theorem powerOfTen?_eq_some_iff {k p : Nat} :
    powerOfTen? k = some p ↔ k ≤ maxPower ∧ 10 ^ k = p := by
  unfold powerOfTen?
  split <;> simp_all

/-- The exact number of thousandths. -/
theorem thousandths_eq (mantissa places : Nat) (s : Scale) :
    (mantissa : ℚ) / 10 ^ places * s.value * 1000 =
      (mantissa * s.factor : Nat) * 10 ^ (s.exponent + 3 - places) := by
  have hten : (10 : ℚ) ≠ 0 := by norm_num
  have hthousand : (10 : ℚ) ^ (3 : ℤ) = 1000 := by norm_num
  unfold Scale.value
  rw [zpow_sub₀ hten, zpow_add₀ hten, hthousand, zpow_natCast, Nat.cast_mul]
  ring

section

variable {mantissa places k : Nat} {s : Scale}

theorem scaled?_eq_of_nonneg (h : 0 ≤ s.shift places) : scaled? mantissa places s =
    (powerOfTen? (s.shift places).toNat).bind fun p =>
      (fit? (mantissa * p)).bind fun n => fit? (n * s.factor) :=
  if_pos h

theorem scaled?_eq_of_neg (h : s.shift places < 0) : scaled? mantissa places s =
    (fit? (mantissa * s.factor)).bind fun n =>
      (powerOfTen? (s.shift places).natAbs).map (n / ·) := by
  show Id.run (if 0 ≤ s.shift places then _ else _) = _
  rw [if_neg (not_le.2 h), ← natAbs_wrap32_neg (shift_fits s places)]
  cases fit? (mantissa * s.factor) <;> rfl

theorem scaled?_of_nonneg (h : 0 ≤ s.shift places) : scaled? mantissa places s = some k ↔
    (s.shift places).natAbs ≤ maxPower ∧ mantissa * 10 ^ (s.shift places).natAbs ≤ maxMagnitude ∧
      mantissa * 10 ^ (s.shift places).natAbs * s.factor ≤ maxMagnitude ∧
        mantissa * 10 ^ (s.shift places).natAbs * s.factor = k := by
  have hnat : (s.shift places).toNat = (s.shift places).natAbs := by omega
  simp only [scaled?_eq_of_nonneg h, hnat, Option.bind_eq_some_iff, powerOfTen?_eq_some_iff,
    fit?_eq_some_iff]
  constructor
  · rintro ⟨p, ⟨hmax, rfl⟩, n, ⟨hn, rfl⟩, hk, rfl⟩
    exact ⟨hmax, hn, hk, rfl⟩
  · rintro ⟨hmax, hn, hk, rfl⟩
    exact ⟨_, ⟨hmax, rfl⟩, _, ⟨hn, rfl⟩, hk, rfl⟩

theorem scaled?_of_neg (h : s.shift places < 0) : scaled? mantissa places s = some k ↔
    (s.shift places).natAbs ≤ maxPower ∧ mantissa * s.factor ≤ maxMagnitude ∧
      mantissa * s.factor / 10 ^ (s.shift places).natAbs = k := by
  simp only [scaled?_eq_of_neg h, Option.bind_eq_some_iff, Option.map_eq_some_iff,
    powerOfTen?_eq_some_iff, fit?_eq_some_iff]
  constructor
  · rintro ⟨n, ⟨hn, rfl⟩, p, ⟨hmax, rfl⟩, rfl⟩
    exact ⟨hmax, hn, rfl⟩
  · rintro ⟨hmax, hn, rfl⟩
    exact ⟨_, ⟨hn, rfl⟩, _, ⟨hmax, rfl⟩, rfl⟩

/-- The power that is computed with fits, and nothing is rounded but the result. -/
theorem scaled?_floor (h : scaled? mantissa places s = some k) :
    (s.shift places).natAbs ≤ maxPower ∧
      (k : ℤ) = ⌊((mantissa * s.factor : Nat) : ℚ) * 10 ^ s.shift places⌋ := by
  rcases lt_or_ge (s.shift places) 0 with hneg | hpos
  · obtain ⟨hmax, -, rfl⟩ := (scaled?_of_neg hneg).1 h
    have hshift : s.shift places = -((s.shift places).natAbs : ℤ) := by omega
    have hexact : ((mantissa * s.factor : Nat) : ℚ) * 10 ^ s.shift places =
        (mantissa * s.factor : Nat) / (10 ^ (s.shift places).natAbs : Nat) := by
      rw [hshift, zpow_neg, zpow_natCast, ← div_eq_mul_inv, Int.natAbs_neg, Int.natAbs_natCast,
        Nat.cast_pow]
      rfl
    rw [hexact, Rat.floor_natCast_div_natCast]
    exact ⟨hmax, rfl⟩
  · obtain ⟨hmax, -, -, rfl⟩ := (scaled?_of_nonneg hpos).1 h
    have hshift : s.shift places = ((s.shift places).natAbs : ℤ) := by omega
    have hexact : ((mantissa * s.factor : Nat) : ℚ) * 10 ^ s.shift places =
        (mantissa * 10 ^ (s.shift places).natAbs * s.factor : Nat) := by
      rw [hshift, zpow_natCast, Int.natAbs_natCast]
      push_cast
      ring
    rw [hexact, Int.floor_natCast]
    exact ⟨hmax, rfl⟩

/-- The sums of 32 bits do not mislead. -/
theorem scaled?_eq_floor (he : -2 ^ 31 ≤ s.exponent ∧ s.exponent < 2 ^ 31)
    (hplaces : places < 2 ^ 30) (h : scaled? mantissa places s = some k) :
    (k : ℤ) = ⌊(mantissa : ℚ) / 10 ^ places * s.value * 1000⌋ := by
  obtain ⟨hmax, hk⟩ := scaled?_floor h
  rw [hk, shift_eq he (by omega) hmax, thousandths_eq]

end

/-! ## The result -/

/-- The digits around the point, read as one number. -/
theorem magnitude_eq (n : Numeral) : n.magnitude =
    Nat.ofDigitChars 10 (n.whole ++ n.frac.getD []) 0 / 10 ^ (n.frac.getD []).length := by
  have happend := value_append n.whole (n.frac.getD [])
  simp only [value_eq_ofDigitChars, Nat.pow_eq] at happend
  unfold Numeral.magnitude
  rw [happend]
  push_cast
  field_simp

theorem scale_nonneg {cs : List Char} {q : ℚ} (h : Scales cs q) : 0 ≤ q := by
  cases h <;> positivity

theorem length_trimChars_le (raw : String) :
    (Text.trimChars raw.toList).length ≤ raw.utf8ByteSize := by
  have hchars : ∀ cs : List Char, cs.length ≤ String.utf8Len cs := by
    intro cs
    induction cs with
    | nil => exact Nat.le_refl 0
    | cons c cs ih =>
      have hc := c.utf8Size_pos
      rw [String.utf8Len_cons, List.length_cons]
      omega
  rw [← String.utf8Len_toList]
  exact (Text.length_trimChars _).trans (hchars _)

theorem Numeral.length_frac_le (n : Numeral) : (n.frac.getD []).length ≤ n.text.length := by
  have hsecond : (n.frac.getD []).length ≤ n.digits.length := by
    unfold digits
    cases n.frac with
    | none => exact Nat.zero_le _
    | some frac =>
      simp only [Option.elim_some, Option.getD_some, List.length_append, List.length_cons]
      omega
  unfold text
  rw [List.length_append, List.length_append]
  omega

theorem Numeral.places_lt {n : Numeral} {raw : String} (htext : n.text = Text.trimChars raw.toList)
    (hsize : raw.utf8ByteSize < 2 ^ 30) : n.places < 2 ^ 30 :=
  (n.length_frac_le.trans (htext ▸ length_trimChars_le raw)).trans_lt hsize

/-- **Quantities are read exactly.** The text without its blanks stands for one number, and the
result is that number in thousandths, cut off toward zero. -/
theorem milli?_exact {raw : String} {m : Int} (hsize : raw.utf8ByteSize < 2 ^ 30)
    (h : milli? raw = some m) :
    (∃! v, Denotes (Text.trimChars raw.toList) v) ∧
      ∀ v, Denotes (Text.trimChars raw.toList) v → m = truncated (v * 1000) := by
  obtain ⟨n, htext⟩ := exists_numeral h
  have hdenotes : Denotes (Text.trimChars raw.toList) n.value := ⟨n, htext, rfl⟩
  refine ⟨⟨n.value, hdenotes, fun v hv => hv.unique hdenotes⟩, fun v hv => ?_⟩
  rw [hv.unique hdenotes]
  obtain ⟨s, hs, hscale⟩ := scale?_of_scales n.scales
  rw [milli?_numeral htext hs, Option.map_eq_some_iff] at h
  obtain ⟨k, hk, rfl⟩ := h
  obtain ⟨mantissa, hmantissa, hk⟩ := Option.bind_eq_some_iff.1 hk
  obtain ⟨-, rfl⟩ := fit?_eq_some_iff.1 hmantissa
  have hplaces : (n.frac.getD []).length < 2 ^ 30 :=
    (n.length_frac_le.trans (htext ▸ length_trimChars_le raw)).trans_lt hsize
  have hfloor := scaled?_eq_floor (exponent_of_scale? hs) hplaces hk
  rw [← magnitude_eq, hscale] at hfloor
  have hmagnitude : 0 ≤ n.magnitude := by
    unfold Numeral.magnitude
    positivity
  have hnonneg : 0 ≤ n.magnitude * n.scale * 1000 := by
    have := scale_nonneg n.scales
    positivity
  unfold Numeral.signed Numeral.value
  split
  · rw [hfloor, ← truncated_neg hnonneg]
    congr 1
    ring
  · rw [hfloor, ← truncated_of_nonneg hnonneg]
    congr 1
    ring

/-- Minus one and a half thousandths. -/
def Numeral.loss : Numeral where
  signs := ['-']
  whole := ['1']
  frac := some ['5']
  suffix := ['e', '-', '3']
  scale := 10 ^ (-3 : ℤ)
  isSign := List.forall_mem_singleton.2 (.inr rfl)
  isDigit := List.all_eq_true.1 rfl
  nonempty := nofun
  scales := .exponent (.inl rfl) (.minus (spells_toDigits 3)) (by decide) (by decide)

theorem milli?_exact_loss : " -1.5e-3 ".utf8ByteSize < 2 ^ 30 ∧ milli? " -1.5e-3 " = some (-1) ∧
    Denotes (Text.trimChars " -1.5e-3 ".toList) (-3 / 2000) ∧ -1 = truncated (-3 / 2000 * 1000) := by
  have hdenotes : Denotes (Text.trimChars " -1.5e-3 ".toList) (-3 / 2000) := by
    have hmagnitude : Numeral.loss.magnitude = 3 / 2 := by
      have hvalue : Numeral.loss.magnitude = (1 : Nat) + (5 : Nat) / 10 ^ 1 := rfl
      rw [hvalue]
      norm_num
    refine ⟨.loss, by decide, ?_⟩
    unfold Numeral.value
    rw [if_pos (by decide), hmagnitude]
    norm_num [Numeral.loss]
  have hsize : " -1.5e-3 ".utf8ByteSize < 2 ^ 30 := by decide
  have hmilli : milli? " -1.5e-3 " = some (-1) := by decide
  exact ⟨hsize, hmilli, hdenotes, (milli?_exact hsize hmilli).2 _ hdenotes⟩

end TenantCloud.Quantity
