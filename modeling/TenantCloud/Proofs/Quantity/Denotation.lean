import Mathlib.Algebra.Order.Field.Rat
import Mathlib.Tactic.NormNum
import TenantCloud.Proofs.Text.Digits
import TenantCloud.Quantity

/-!
# What quantities denote

A `Numeral` is a text of the grammar of quantities: signs, digits with at most one point, and a
suffix with the factor that it stands for (`Scales`). `Denotes` says which rational number a text
stands for, without a word about how it is read. A text stands for at most one number
(`Denotes.unique`), because its parts can be told from it (`Numeral.text_parts`).
-/

set_option autoImplicit false

namespace TenantCloud.Quantity

open Text.Digits

/-! ## Suffixes -/

/-- The factor that a suffix stands for: a power of 1024, a power of 1000, or a power of ten that
is written as an exponent in 32 signed bits. -/
inductive Scales : List Char → ℚ → Prop
  | none : Scales [] 1
  | binary {c : Char} {i : Nat} : ['K', 'M', 'G', 'T', 'P', 'E'][i]? = some c →
      Scales [c, 'i'] (1024 ^ (i + 1))
  | large {c : Char} {i : Nat} : ['k', 'M', 'G', 'T', 'P', 'E'][i]? = some c →
      Scales [c] (1000 ^ (i + 1))
  | small {c : Char} {i : Nat} : ['m', 'u', 'n'][i]? = some c → Scales [c] (1 / 1000 ^ (i + 1))
  | exponent {c : Char} {cs : List Char} {e : Int} : c = 'e' ∨ c = 'E' → SpellsSigned cs e →
      -2 ^ 31 ≤ e → e < 2 ^ 31 → Scales (c :: cs) (10 ^ e)

/-- The factor that a scale stands for. -/
def Scale.value (s : Scale) : ℚ := s.factor * 10 ^ s.exponent

variable {cs : List Char} {q : ℚ} {s : Scale}

theorem exponent?_eq_some_iff {e : Int} :
    exponent? cs = some e ↔ SpellsSigned cs e ∧ -2 ^ 31 ≤ e ∧ e < 2 ^ 31 := by
  unfold exponent?
  rw [Option.filter_eq_some_iff, readSigned?_eq_some_iff, decide_eq_true_eq]
  rfl

/-- The scales of the three families of suffixes. -/
theorem value_families (i : Nat) :
    (⟨Nat.pow 2 (10 * (i + 1)), 0⟩ : Scale).value = 1024 ^ (i + 1) ∧
      (⟨1, (3 * (i + 1) : Nat)⟩ : Scale).value = 1000 ^ (i + 1) ∧
      (⟨1, -(3 * (i + 1) : Nat)⟩ : Scale).value = 1 / 1000 ^ (i + 1) := by
  have hkilo : (10 : ℚ) ^ (3 * (i + 1)) = 1000 ^ (i + 1) := by
    rw [pow_mul]
    norm_num
  have hkibi : (2 : ℚ) ^ (10 * (i + 1)) = 1024 ^ (i + 1) := by
    rw [pow_mul]
    norm_num
  unfold Scale.value
  refine ⟨?_, ?_, ?_⟩
  · rw [zpow_zero, mul_one, ← hkibi]
    exact Nat.cast_pow 2 _
  · rw [Nat.cast_one, one_mul, zpow_natCast, hkilo]
  · rw [Nat.cast_one, one_mul, zpow_neg, zpow_natCast, hkilo, one_div]

theorem scales_of_scale? (h : scale? cs = some s) : Scales cs s.value := by
  have hbinary : ∀ {c : Char} (i : Nat), ['K', 'M', 'G', 'T', 'P', 'E'][i]? = some c →
      Scales [c, 'i'] (⟨Nat.pow 2 (10 * (i + 1)), 0⟩ : Scale).value := fun i h =>
    (value_families i).1 ▸ .binary h
  have hlarge : ∀ {c : Char} (i : Nat), ['k', 'M', 'G', 'T', 'P', 'E'][i]? = some c →
      Scales [c] (⟨1, (3 * (i + 1) : Nat)⟩ : Scale).value := fun i h =>
    (value_families i).2.1 ▸ .large h
  have hsmall : ∀ {c : Char} (i : Nat), ['m', 'u', 'n'][i]? = some c →
      Scales [c] (⟨1, -(3 * (i + 1) : Nat)⟩ : Scale).value := fun i h =>
    (value_families i).2.2 ▸ .small h
  have hexponent : ∀ {c : Char} {cs : List Char}, c = 'e' ∨ c = 'E' →
      (exponent? cs).map (⟨1, ·⟩) = some s → Scales (c :: cs) s.value := by
    intro c cs hc h
    obtain ⟨e, he, rfl⟩ := Option.map_eq_some_iff.1 h
    obtain ⟨hsigned, hlow, hhigh⟩ := exponent?_eq_some_iff.1 he
    have hvalue : (⟨1, e⟩ : Scale).value = 10 ^ e := by simp [Scale.value]
    rw [hvalue]
    exact .exponent hc hsigned hlow hhigh
  unfold scale? at h
  split at h
  case h_17 => exact hexponent (.inl rfl) h
  case h_18 => exact hexponent (.inr rfl) h
  case h_19 => cases h
  all_goals
    cases h
  · have hone : (⟨1, 0⟩ : Scale).value = 1 := by simp [Scale.value]
    exact hone ▸ .none
  · exact hbinary 0 rfl
  · exact hbinary 1 rfl
  · exact hbinary 2 rfl
  · exact hbinary 3 rfl
  · exact hbinary 4 rfl
  · exact hbinary 5 rfl
  · exact hsmall 2 rfl
  · exact hsmall 1 rfl
  · exact hsmall 0 rfl
  · exact hlarge 0 rfl
  · exact hlarge 1 rfl
  · exact hlarge 2 rfl
  · exact hlarge 3 rfl
  · exact hlarge 4 rfl
  · exact hlarge 5 rfl

/-- A written exponent is the exponent of its scale. -/
theorem scale?_of_exponent? {c : Char} {e : Int} (hc : c = 'e' ∨ c = 'E')
    (he : exponent? cs = some e) : scale? (c :: cs) = some ⟨1, e⟩ := by
  have hmap : (exponent? cs).map (⟨1, ·⟩ : Int → Scale) = some ⟨1, e⟩ := by
    rw [he]
    rfl
  rcases hc with rfl | rfl
  · exact hmap
  · -- Neither exa nor exbi is followed by an exponent.
    unfold scale?
    split
    case h_18 heq =>
      cases heq
      exact hmap
    case h_19 hno => exact absurd rfl (hno cs)
    case h_7 heq =>
      cases heq
      cases he
    case h_16 heq =>
      cases heq
      cases he
    all_goals
      rename_i heq
      cases heq

/-- The scale of a suffix is that of a unit, or it is written as an exponent. -/
theorem scale?_cases (h : scale? cs = some s) :
    (0 < s.factor ∧ -9 ≤ s.exponent ∧ s.exponent ≤ 18) ∨
      (s.factor = 1 ∧ ∃ c rest, cs = c :: rest ∧ (c = 'e' ∨ c = 'E') ∧
        exponent? rest = some s.exponent) := by
  have hexponent : ∀ {c : Char} {rest : List Char}, c = 'e' ∨ c = 'E' →
      (exponent? rest).map (⟨1, ·⟩) = some s → s.factor = 1 ∧ ∃ c' rest', c :: rest = c' :: rest' ∧
        (c' = 'e' ∨ c' = 'E') ∧ exponent? rest' = some s.exponent := by
    intro c rest hc h
    obtain ⟨e, he, rfl⟩ := Option.map_eq_some_iff.1 h
    exact ⟨rfl, c, rest, rfl, hc, he⟩
  unfold scale? at h
  split at h
  case h_17 => exact .inr (hexponent (.inl rfl) h)
  case h_18 => exact .inr (hexponent (.inr rfl) h)
  case h_19 => cases h
  all_goals
    cases h
    exact .inl (by decide)

theorem scale?_of_scales (h : Scales cs q) : ∃ s, scale? cs = some s ∧ s.value = q := by
  cases h with
  | none => exact ⟨⟨1, 0⟩, rfl, by simp [Scale.value]⟩
  | @binary c i h =>
    refine ⟨_, ?_, (value_families i).1⟩
    rcases i with _ | _ | _ | _ | _ | _ | i <;> cases h <;> rfl
  | @large c i h =>
    refine ⟨_, ?_, (value_families i).2.1⟩
    rcases i with _ | _ | _ | _ | _ | _ | i <;> cases h <;> rfl
  | @small c i h =>
    refine ⟨_, ?_, (value_families i).2.2⟩
    rcases i with _ | _ | _ | i <;> cases h <;> rfl
  | @exponent c cs e hc hsigned hlow hhigh =>
    have he : exponent? cs = some e := exponent?_eq_some_iff.2 ⟨hsigned, hlow, hhigh⟩
    exact ⟨⟨1, e⟩, scale?_of_exponent? hc he, by simp [Scale.value]⟩

theorem Scales.unique {q' : ℚ} (h : Scales cs q) (h' : Scales cs q') : q = q' := by
  obtain ⟨s, hs, rfl⟩ := scale?_of_scales h
  obtain ⟨s', hs', rfl⟩ := scale?_of_scales h'
  cases hs.symm.trans hs'
  rfl

/-- No suffix starts with a character of a number. -/
theorem Scales.takeWhile_isNumeric (h : Scales cs q) : cs.takeWhile isNumeric = [] := by
  cases h with
  | none => rfl
  | @binary c i h => rcases i with _ | _ | _ | _ | _ | _ | i <;> cases h <;> rfl
  | @large c i h => rcases i with _ | _ | _ | _ | _ | _ | i <;> cases h <;> rfl
  | @small c i h => rcases i with _ | _ | _ | i <;> cases h <;> rfl
  | exponent hc => rcases hc with rfl | rfl <;> rfl

/-! ## Numerals -/

/-- A text of the grammar of quantities. -/
structure Numeral where
  signs : List Char
  whole : List Char
  /-- The digits behind the point, where there is one. -/
  frac : Option (List Char)
  suffix : List Char
  /-- The factor that the suffix stands for. -/
  scale : ℚ
  isSign : ∀ c ∈ signs, c = '+' ∨ c = '-'
  isDigit : ∀ c ∈ whole ++ frac.getD [], isDigit c = true
  nonempty : whole ++ frac.getD [] ≠ []
  scales : Scales suffix scale

namespace Numeral

variable (n : Numeral)

/-- The digits and the point. -/
def digits : List Char := n.whole ++ n.frac.elim [] ('.' :: ·)

def text : List Char := n.signs ++ n.digits ++ n.suffix

/-- The number that the digits around the point stand for. -/
def magnitude : ℚ :=
  Nat.ofDigitChars 10 n.whole 0 +
    Nat.ofDigitChars 10 (n.frac.getD []) 0 / 10 ^ (n.frac.getD []).length

/-- The number that the text stands for: negative just where its first character is a minus. -/
def value : ℚ := (if n.text.head? = some '-' then -1 else 1) * n.magnitude * n.scale

variable {n} in
theorem mem_digits {c : Char} (h : c ∈ n.digits) : c = '.' ∨ Text.Digits.isDigit c = true := by
  rcases List.mem_append.1 h with h | h
  · exact .inr (n.isDigit c (List.mem_append_left _ h))
  · cases hfrac : n.frac with
    | none =>
      rw [hfrac] at h
      cases h
    | some frac =>
      rw [hfrac] at h
      rcases List.mem_cons.1 h with h | h
      · exact .inl h
      · exact .inr (n.isDigit c (List.mem_append_right _ (hfrac ▸ h)))

theorem digits_ne_nil : n.digits ≠ [] := by
  obtain ⟨signs, whole, frac, suffix, scale, -, -, hne, -⟩ := n
  cases frac with
  | none => exact hne
  | some frac => exact List.append_ne_nil_of_right_ne_nil _ (List.cons_ne_nil _ _)

/-- The suffix starts behind the last character of a number. -/
theorem text_parts : n.text.takeWhile isNumeric = n.signs ++ n.digits ∧
    n.text.dropWhile isNumeric = n.suffix := by
  have hnumeric : ∀ c ∈ n.signs ++ n.digits, isNumeric c = true := by
    intro c hc
    rcases List.mem_append.1 hc with hc | hc
    · rcases n.isSign c hc with rfl | rfl <;> rfl
    · rcases mem_digits hc with rfl | hc
      · rfl
      · simp [isNumeric, hc]
  have hsuffix : n.suffix.takeWhile isNumeric = [] := n.scales.takeWhile_isNumeric
  have hdrop : n.suffix.dropWhile isNumeric = n.suffix := by
    have happend := List.takeWhile_append_dropWhile (p := isNumeric) (l := n.suffix)
    rwa [hsuffix] at happend
  unfold text
  rw [List.takeWhile_append_of_pos hnumeric, List.dropWhile_append_of_pos hnumeric, hsuffix, hdrop,
    List.append_nil]
  exact ⟨rfl, rfl⟩

variable {n} in
theorem isSign_of_mem_digits {c : Char} (h : c ∈ n.digits) : Quantity.isSign c = false := by
  rcases mem_digits h with rfl | hdigit
  · rfl
  · rw [Bool.eq_false_iff]
    intro hsign
    rcases (by simpa [Quantity.isSign] using hsign : c = '+' ∨ c = '-') with rfl | rfl <;>
      cases hdigit

theorem isSign_of_mem_signs : ∀ c ∈ n.signs, Quantity.isSign c = true := by
  intro c hc
  rcases n.isSign c hc with rfl | rfl <;> rfl

/-- The signs end at the first digit or the point. -/
theorem dropWhile_isSign : (n.signs ++ n.digits).dropWhile Quantity.isSign = n.digits := by
  rw [List.dropWhile_append_of_pos n.isSign_of_mem_signs]
  cases hd : n.digits with
  | nil => exact absurd hd n.digits_ne_nil
  | cons c cs =>
    have hc : Quantity.isSign c = false := isSign_of_mem_digits (n := n) (hd ▸ List.mem_cons_self)
    rw [List.dropWhile_cons_of_neg (by rw [hc]; exact Bool.false_ne_true)]

theorem takeWhile_isSign : n.text.takeWhile Quantity.isSign = n.signs := by
  unfold text
  rw [List.append_assoc, List.takeWhile_append_of_pos n.isSign_of_mem_signs]
  cases hd : n.digits with
  | nil => exact absurd hd n.digits_ne_nil
  | cons c cs =>
    have hc : Quantity.isSign c = false := isSign_of_mem_digits (n := n) (hd ▸ List.mem_cons_self)
    rw [List.cons_append, List.takeWhile_cons_of_neg (by rw [hc]; exact Bool.false_ne_true),
      List.append_nil]

theorem halves_digits : halves n.digits = (n.whole, n.frac.getD []) := by
  obtain ⟨signs, whole, frac, suffix, scale, -, hdigit, -, -⟩ := n
  have hpoint : ∀ c ∈ whole, decide (c ≠ '.') = true := by
    intro c hc
    refine decide_eq_true fun he => ?_
    subst he
    cases hdigit '.' (List.mem_append_left _ hc)
  unfold halves digits
  rw [List.takeWhile_append_of_pos hpoint, List.dropWhile_append_of_pos hpoint]
  cases frac <;> simp

end Numeral

/-- The text stands for the number. -/
def Denotes (cs : List Char) (v : ℚ) : Prop := ∃ n : Numeral, n.text = cs ∧ n.value = v

/-- A text stands for one number at most. -/
theorem Denotes.unique {v v' : ℚ} (h : Denotes cs v) (h' : Denotes cs v') : v = v' := by
  obtain ⟨n, rfl, rfl⟩ := h
  obtain ⟨n', htext, rfl⟩ := h'
  obtain ⟨hnumber, hsuffix⟩ := n.text_parts
  obtain ⟨hnumber', hsuffix'⟩ := n'.text_parts
  rw [htext] at hnumber' hsuffix'
  have hdigits : n.digits = n'.digits := by
    rw [← n.dropWhile_isSign, ← n'.dropWhile_isSign, ← hnumber, hnumber']
  have hhalves : (n.whole, n.frac.getD []) = (n'.whole, n'.frac.getD []) := by
    rw [← n.halves_digits, ← n'.halves_digits, hdigits]
  obtain ⟨hwhole, hfrac⟩ := Prod.mk.inj hhalves
  have hscale : n.scale = n'.scale :=
    n.scales.unique ((hsuffix.symm.trans hsuffix') ▸ n'.scales)
  unfold Numeral.value Numeral.magnitude
  rw [htext, hwhole, hfrac, hscale]

end TenantCloud.Quantity
