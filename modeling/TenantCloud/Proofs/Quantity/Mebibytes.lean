import TenantCloud.Proofs.Quantity.Spelling
import TenantCloud.Proofs.Quantity.Truncation

/-!
# Whole mebibytes

Memory is cut off three times: to thousandths of a byte, to bytes, and to mebibytes. The three are
as good as one (`Quantity.mebibytes_eq_floor`), so that the result depends on the number that a text
stands for and on nothing else of the text (`Quantity.mebibytes?_floors_once`). That holds as long
as the places behind the point are counted, which billions of them are not
(`Quantity.uncounted_places_mislead`).
-/

set_option autoImplicit false

namespace TenantCloud.Quantity

open Text.Digits

/-- The whole mebibytes in a number of bytes, where they fit 64 bits. -/
def wholeMebibytes? (v : ℚ) : Option Int :=
  if ⌊v / 2 ^ 20⌋ < 2 ^ 63 then some ⌊v / 2 ^ 20⌋ else none

/-- Cutting off to thousandths and to bytes first makes no difference. -/
theorem mebibytes_eq_floor (v : ℚ) : ⌊v * 1000⌋ / 1000 / mebibyte = ⌊v / 2 ^ 20⌋ := by
  have hthousand : v * 1000 / (1000 : Nat) = v := by
    rw [Nat.cast_ofNat, mul_div_cancel_right₀ _ (by norm_num)]
  have hbytes : ⌊v * 1000⌋ / 1000 = ⌊v⌋ := by
    have hfloor := Int.floor_div_natCast (v * 1000) 1000
    rw [hthousand] at hfloor
    exact hfloor.symm
  have hpower : v / 2 ^ 20 = v / (2 ^ 20 : Nat) := by
    rw [Nat.cast_pow, Nat.cast_ofNat]
  rw [hbytes, hpower, Int.floor_div_natCast]
  rfl

/-- More bytes have as many mebibytes, or more. -/
theorem wholeMebibytes?_mono {v v' : ℚ} (h : v ≤ v') {mb' : Int}
    (hmb' : wholeMebibytes? v' = some mb') : ∃ mb ≤ mb', wholeMebibytes? v = some mb := by
  have hle : ⌊v / 2 ^ 20⌋ ≤ ⌊v' / 2 ^ 20⌋ :=
    Int.floor_le_floor (div_le_div_of_nonneg_right h (by positivity))
  unfold wholeMebibytes? at hmb' ⊢
  split at hmb'
  · rename_i hfits
    cases hmb'
    exact ⟨_, hle, if_pos (hle.trans_lt hfits)⟩
  · cases hmb'

/-! ## Numbers that are not negative -/

variable {raw : String} {m : Int} {v : ℚ}

/-- A numeral that is not negative has its magnitude for a value, whatever its sign. -/
theorem Numeral.signed_floor {n : Numeral} (h : 0 ≤ n.value) {k : Nat}
    (hk : (k : ℤ) = ⌊|n.value| * 1000⌋) : n.signed k = ⌊n.value * 1000⌋ := by
  rw [abs_of_nonneg h] at hk
  unfold signed
  split
  · rename_i hminus
    -- Behind a minus only zero is not negative.
    have hopposite : n.value = -|n.value| := by
      rw [n.abs_value, value, if_pos hminus]
      ring
    have hzero : n.value = 0 := by
      have habs := abs_nonneg n.value
      linarith
    rw [hzero, zero_mul, Int.floor_zero] at hk ⊢
    omega
  · exact hk

/-- What is not negative is read as its thousandths. -/
theorem milli?_of_nonneg {n : Numeral} (htext : n.text = Text.trimChars raw.toList)
    (hread : milli? raw = some m) (hplaces : n.places < 2 ^ 31 - 35) (hnonneg : 0 ≤ n.value) :
    m = ⌊n.value * 1000⌋ := by
  obtain ⟨s, hs, -⟩ := scale?_of_scales n.scales
  rw [milli?_numeral htext hs, Option.map_eq_some_iff] at hread
  obtain ⟨k, hk, rfl⟩ := hread
  obtain ⟨mantissa, hmantissa, hscaled⟩ := Option.bind_eq_some_iff.1 hk
  obtain ⟨-, rfl⟩ := fit?_eq_some_iff.1 hmantissa
  obtain ⟨hshift, hfloor⟩ := scaled?_floor hscaled
  refine n.signed_floor hnonneg ?_
  rw [abs_value_eq hs, hfloor]
  exact congrArg (fun e => ⌊((n.mantissa * s.factor : Nat) : ℚ) * 10 ^ e⌋)
    (shift_eq (exponent_of_scale? hs) hplaces hshift)

theorem mebibytes?_of_milli? (hm : milli? raw = some m) (hnonneg : 0 ≤ m) : mebibytes? raw =
    if m / 1000 / mebibyte < 2 ^ 63 then some (m / 1000 / mebibyte) else none := by
  have hword : Int.pow 2 63 = 2 ^ 63 := rfl
  show (milli? raw).bind inMebibytes? = _
  rw [hm, Option.bind_some]
  unfold inMebibytes?
  rw [hword]
  simp only [Option.bind_eq_bind, Option.bind_some, guard, if_pos hnonneg, Option.pure_def]
  split <;> rfl

/-- The mebibytes of a text are those of the number that it stands for. -/
theorem mebibytes?_of_numeral {n : Numeral} (htext : n.text = Text.trimChars raw.toList)
    (hread : (milli? raw).isSome = true) (hplaces : n.places < 2 ^ 31 - 35)
    (hnonneg : 0 ≤ n.value) : mebibytes? raw = wholeMebibytes? n.value := by
  obtain ⟨m, hm⟩ := Option.isSome_iff_exists.1 hread
  obtain rfl := milli?_of_nonneg htext hm hplaces hnonneg
  rw [mebibytes?_of_milli? hm (Int.floor_nonneg.2 (by positivity)), mebibytes_eq_floor]
  rfl

/-- **Memory is rounded down once.** A text that is read and stands for a number of bytes that is
not negative has as many whole mebibytes as that number, where they fit 64 bits, and none else. So
two texts for one number have the same mebibytes, and one for a smaller number has no more of them.
Left out are texts with 2 ^ 31 - 35 places and more behind the point: there the power of ten may
leave the 32 bits that it is kept in, and another one is computed with. -/
theorem mebibytes?_floors_once {n : Numeral} (htext : n.text = Text.trimChars raw.toList)
    (hread : (milli? raw).isSome = true) (hplaces : n.places < 2 ^ 31 - 35)
    (hnonneg : 0 ≤ n.value) :
    mebibytes? raw = wholeMebibytes? n.value ∧
      ∀ (raw' : String) (n' : Numeral), n'.text = Text.trimChars raw'.toList →
        (milli? raw').isSome = true → n'.places < 2 ^ 31 - 35 → n.value ≤ n'.value →
        (n.value = n'.value → mebibytes? raw = mebibytes? raw') ∧
          ∀ mb', mebibytes? raw' = some mb' → ∃ mb ≤ mb', mebibytes? raw = some mb := by
  have hmebibytes := mebibytes?_of_numeral htext hread hplaces hnonneg
  refine ⟨hmebibytes, fun raw' n' htext' hread' hplaces' hle => ?_⟩
  rw [hmebibytes, mebibytes?_of_numeral htext' hread' hplaces' (hnonneg.trans hle)]
  exact ⟨fun heq => by rw [heq], fun mb' => wholeMebibytes?_mono hle⟩

/-! ## Next to a mebibyte -/

theorem Numeral.value_ofNat (n : Nat) {unit : List Char} {scale : ℚ} (h : Scales unit scale) :
    (Numeral.ofNat n h).value = n * scale := by
  have hsign : (Numeral.ofNat n h).text.head? ≠ some '-' := by
    obtain ⟨hne, hdigits, -⟩ := spells_toDigits n
    intro hhead
    rw [text_ofNat, List.head?_append_of_ne_nil _ hne] at hhead
    cases hdigits '-' (List.mem_of_head? hhead)
  have hmagnitude : (Numeral.ofNat n h).magnitude = n := by
    show ((Nat.ofDigitChars 10 (Nat.toDigits 10 n) 0 : Nat) : ℚ) + (0 : Nat) / 10 ^ 0 = n
    rw [(spells_toDigits n).value]
    simp
  rw [value, if_neg hsign, hmagnitude, one_mul]
  rfl

/-- A thousandth of a byte is missing to a mebibyte. -/
def Numeral.belowMebibyte : Numeral :=
  .ofNat 1048575999 (.small rfl : Scales ['m'] (1 / 1000 ^ (0 + 1)))

def Numeral.oneMebibyte : Numeral :=
  .ofNat 1 (.binary rfl : Scales ['M', 'i'] (1024 ^ (1 + 1)))

theorem mebibytes?_floors_once_next :
    Numeral.belowMebibyte.text = Text.trimChars "1048575999m".toList ∧
      (milli? "1048575999m").isSome = true ∧ Numeral.belowMebibyte.places < 2 ^ 31 - 35 ∧
      0 ≤ Numeral.belowMebibyte.value ∧ Numeral.belowMebibyte.value ≤ Numeral.oneMebibyte.value ∧
      mebibytes? "1048575999m" = wholeMebibytes? Numeral.belowMebibyte.value ∧
      ∀ mb', mebibytes? "1Mi" = some mb' → ∃ mb ≤ mb', mebibytes? "1048575999m" = some mb := by
  have htext : Numeral.belowMebibyte.text = Text.trimChars "1048575999m".toList := by
    unfold Numeral.belowMebibyte
    rw [text_ofNat]
    decide
  have htext' : Numeral.oneMebibyte.text = Text.trimChars "1Mi".toList := by
    unfold Numeral.oneMebibyte
    rw [text_ofNat]
    decide
  have hvalue : Numeral.belowMebibyte.value = 1048575999 * (1 / 1000 ^ (0 + 1)) :=
    Numeral.value_ofNat _ _
  have hvalue' : Numeral.oneMebibyte.value = (1 : Nat) * 1024 ^ (1 + 1) := Numeral.value_ofNat _ _
  have hnonneg : 0 ≤ Numeral.belowMebibyte.value := by
    rw [hvalue]
    norm_num
  have hle : Numeral.belowMebibyte.value ≤ Numeral.oneMebibyte.value := by
    rw [hvalue, hvalue']
    norm_num
  have hread : (milli? "1048575999m").isSome = true := by decide
  obtain ⟨hfloor, hmono⟩ := mebibytes?_floors_once htext hread (by decide) hnonneg
  exact ⟨htext, hread, by decide, hnonneg, hle, hfloor,
    (hmono "1Mi" .oneMebibyte htext' (by decide) (by decide) hle).2⟩

/-! ## Places that are not counted -/

/-- Nothing around a numeral is taken away. -/
theorem Numeral.text_eq_trimChars (n : Numeral) (h : ∀ c ∈ n.suffix, Text.isBlank c = false) :
    n.text = Text.trimChars (String.ofList n.text).toList := by
  rw [String.toList_ofList, trimChars_of_no_blank]
  intro c hc
  rcases List.mem_append.1 hc with hc | hc
  · rcases List.mem_append.1 hc with hc | hc
    · rcases n.isSign c hc with rfl | rfl <;> rfl
    · rcases mem_digits hc with rfl | hdigit
      · rfl
      · exact isBlank_of_isDigit hdigit
  · exact h c hc

/-- A number below one: zeros behind its point, and few digits behind those. -/
def Numeral.faint (zeros : Nat) {cs unit : List Char} {scale : ℚ}
    (hcs : cs.all Text.Digits.isDigit = true) (h : Scales unit scale) : Numeral where
  signs := []
  whole := ['0']
  frac := some (List.replicate zeros '0' ++ cs)
  suffix := unit
  scale := scale
  isSign := no_signs
  isDigit c hc := by
    rw [Option.getD_some, List.mem_append, List.mem_append, List.mem_singleton] at hc
    rcases hc with rfl | hc | hc
    · rfl
    · rw [List.eq_of_mem_replicate hc]
      rfl
    · exact List.all_eq_true.1 hcs c hc
  nonempty := nofun
  scales := h

section

variable {zeros : Nat} {cs unit : List Char} {scale : ℚ}
  {hcs : cs.all Text.Digits.isDigit = true} {hunit : Scales unit scale}

theorem mantissa_faint :
    (Numeral.faint zeros hcs hunit).mantissa = Nat.ofDigitChars 10 cs 0 := by
  have hzeros : Nat.ofDigitChars 10 (List.replicate zeros '0') 0 = 0 := by
    induction zeros with
    | zero => rfl
    | succ zeros ih => exact ih
  show Nat.ofDigitChars 10 (['0'] ++ (List.replicate zeros '0' ++ cs)) 0 = _
  rw [Nat.ofDigitChars_append, Nat.ofDigitChars_append]
  exact congrArg (Nat.ofDigitChars 10 cs) hzeros

theorem places_faint : (Numeral.faint zeros hcs hunit).places = zeros + cs.length := by
  show (List.replicate zeros '0' ++ cs).length = _
  rw [List.length_append, List.length_replicate]

theorem milli?_faint {s : Scale} (hblank : ∀ c ∈ unit, Text.isBlank c = false)
    (hs : scale? unit = some s) :
    milli? (String.ofList (Numeral.faint zeros hcs hunit).text) =
      ((fit? (Nat.ofDigitChars 10 cs 0)).bind (scaled? · (zeros + cs.length) s)).map Int.ofNat := by
  have htext := (Numeral.faint zeros hcs hunit).text_eq_trimChars hblank
  have hsigned : (Numeral.faint zeros hcs hunit).signed = Int.ofNat := rfl
  rw [milli?_numeral htext hs, hsigned]
  show ((fit? (Numeral.faint zeros hcs hunit).mantissa).bind
    (scaled? · (Numeral.faint zeros hcs hunit).places s)).map _ = _
  rw [mantissa_faint, places_faint]

/-- What is below one has no whole mebibyte. -/
theorem value_faint (hlt : Nat.ofDigitChars 10 cs 0 < 10 ^ cs.length) (hscale : scale ≤ 1) :
    0 ≤ (Numeral.faint zeros hcs hunit).value ∧
      wholeMebibytes? (Numeral.faint zeros hcs hunit).value = some 0 := by
  have hmagnitude : (Numeral.faint zeros hcs hunit).magnitude =
      (Nat.ofDigitChars 10 cs 0 : ℚ) / 10 ^ (zeros + cs.length) := by
    have hmantissa : (Numeral.faint zeros hcs hunit).mantissa = _ := mantissa_faint
    have hplaces : (Numeral.faint zeros hcs hunit).places = _ := places_faint
    rw [← hmantissa, ← hplaces]
    exact magnitude_eq _
  have hvalue : (Numeral.faint zeros hcs hunit).value =
      (Numeral.faint zeros hcs hunit).magnitude * scale := congrArg (· * scale) (one_mul _)
  have hnonneg : 0 ≤ (Numeral.faint zeros hcs hunit).value := by
    have hscale := scale_nonneg hunit
    rw [hvalue, hmagnitude]
    positivity
  have hone : (Numeral.faint zeros hcs hunit).magnitude < 1 := by
    have hpower : 10 ^ cs.length ≤ 10 ^ (zeros + cs.length) :=
      Nat.pow_le_pow_right (by decide) (Nat.le_add_left _ _)
    rw [hmagnitude, div_lt_one (by positivity)]
    exact_mod_cast hlt.trans_le hpower
  have hbelow : (Numeral.faint zeros hcs hunit).value < 1 := by
    have hmagnitude : 0 ≤ (Numeral.faint zeros hcs hunit).magnitude := by
      rw [hmagnitude]
      positivity
    rw [hvalue]
    exact (mul_le_of_le_one_right hmagnitude hscale).trans_lt hone
  have hfloor : ⌊(Numeral.faint zeros hcs hunit).value / 2 ^ 20⌋ = 0 := by
    rw [Int.floor_eq_zero_iff]
    exact ⟨by positivity, (div_le_self hnonneg (by norm_num)).trans_lt hbelow⟩
  unfold wholeMebibytes?
  rw [hfloor]
  exact ⟨hnonneg, rfl⟩

end

theorem scales_tenths {e : Nat} (h : e ≤ 2 ^ 31) :
    Scales ('e' :: '-' :: Nat.toDigits 10 e) (10 ^ (-e : ℤ)) :=
  .exponent (.inl rfl) (.minus (spells_toDigits e)) (by omega) (by omega)

/-- As many places as 32 bits tell apart, the last seven of them the bytes of a mebibyte. -/
def Numeral.uncounted : Numeral :=
  .faint 4294967289 (rfl : ['1', '0', '4', '8', '5', '7', '6'].all Text.Digits.isDigit = true) .none

/-- The fewest places that the least exponent wraps around with. -/
def Numeral.wrapped : Numeral :=
  .faint 2147483612 (rfl : ['1'].all Text.Digits.isDigit = true) (scales_tenths (Nat.le_refl _))

/-- Places in the billions are not all counted: next to nothing becomes a mebibyte, or more of them
than fit. And of two texts for one number one may be read and the other not. -/
theorem uncounted_places_mislead :
    ((milli? (String.ofList Numeral.uncounted.text)).isSome = true ∧
      Numeral.uncounted.text = Text.trimChars (String.ofList Numeral.uncounted.text).toList ∧
      0 ≤ Numeral.uncounted.value ∧ wholeMebibytes? Numeral.uncounted.value = some 0 ∧
      mebibytes? (String.ofList Numeral.uncounted.text) = some 1) ∧
    ((milli? (String.ofList Numeral.wrapped.text)).isSome = true ∧
      Numeral.wrapped.text = Text.trimChars (String.ofList Numeral.wrapped.text).toList ∧
      Numeral.wrapped.places = 2 ^ 31 - 35 ∧
      0 ≤ Numeral.wrapped.value ∧ wholeMebibytes? Numeral.wrapped.value = some 0 ∧
      mebibytes? (String.ofList Numeral.wrapped.text) = none) ∧
    (Denotes (Text.trimChars "1e-41".toList) (10 ^ (-41 : ℤ)) ∧ mebibytes? "1e-41" = some 0 ∧
      Denotes (Text.trimChars "10e-42".toList) (10 ^ (-41 : ℤ)) ∧ mebibytes? "10e-42" = none) := by
  refine ⟨?uncounted, ?wrapped, ?spellings⟩
  case uncounted =>
    have hblank : ∀ c ∈ ([] : List Char), Text.isBlank c = false := List.forall_mem_nil _
    have hread : milli? (String.ofList Numeral.uncounted.text) = some 1048576000 := by
      have hscaled : ((fit? (Nat.ofDigitChars 10 ['1', '0', '4', '8', '5', '7', '6'] 0)).bind
          (scaled? · 4294967296 ⟨1, 0⟩)).map Int.ofNat = some 1048576000 := by decide
      exact (milli?_faint hblank rfl).trans hscaled
    have hvalue : 0 ≤ Numeral.uncounted.value ∧
        wholeMebibytes? Numeral.uncounted.value = some 0 := value_faint (by decide) (le_refl 1)
    refine ⟨?_, Numeral.text_eq_trimChars _ hblank, hvalue.1, hvalue.2, ?_⟩
    · rw [hread]
      rfl
    · rw [mebibytes?_of_milli? hread (by decide)]
      rfl
  case wrapped =>
    have hblank : ∀ c ∈ 'e' :: '-' :: Nat.toDigits 10 (2 ^ 31), Text.isBlank c = false := by
      refine List.forall_mem_cons.2 ⟨rfl, List.forall_mem_cons.2 ⟨rfl, fun c hc => ?_⟩⟩
      exact isBlank_of_isDigit ((spells_toDigits _).digits c hc)
    have hread : milli? (String.ofList Numeral.wrapped.text) = some (10 ^ 38) := by
      have hscaled : ((fit? (Nat.ofDigitChars 10 ['1'] 0)).bind
          (scaled? · 2147483613 ⟨1, -2147483648⟩)).map Int.ofNat = some (10 ^ 38) := by decide
      exact (milli?_faint hblank (by decide)).trans hscaled
    have hscale : (10 : ℚ) ^ (-(2 ^ 31 : Nat) : ℤ) ≤ 1 :=
      zpow_le_one_of_nonpos₀ (by norm_num) (by omega)
    have hvalue : 0 ≤ Numeral.wrapped.value ∧
        wholeMebibytes? Numeral.wrapped.value = some 0 := value_faint (by decide) hscale
    refine ⟨?_, Numeral.text_eq_trimChars _ hblank, places_faint, hvalue.1, hvalue.2, ?_⟩
    · rw [hread]
      rfl
    · rw [mebibytes?_of_milli? hread (by decide)]
      rfl
  case spellings =>
    have hone : Denotes (Text.trimChars "1e-41".toList) (10 ^ (-41 : ℤ)) := by
      refine ⟨.ofNat 1 (scales_tenths (e := 41) (by decide)), ?_, ?_⟩
      · rw [text_ofNat]
        decide
      · rw [Numeral.value_ofNat, Nat.cast_one, one_mul]
        rfl
    have hten : Denotes (Text.trimChars "10e-42".toList) (10 ^ (-41 : ℤ)) := by
      refine ⟨.ofNat 10 (scales_tenths (e := 42) (by decide)), ?_, ?_⟩
      · rw [text_ofNat]
        decide
      · rw [Numeral.value_ofNat]
        norm_num
    exact ⟨hone, by decide, hten, by decide⟩

end TenantCloud.Quantity
