import TenantCloud.Proofs.Quantity.Exactness

/-!
# Signs of quantities

A quantity has one sign at most (`Quantity.IsQuantity`). Reading does not hold to that: signs behind
a first one are passed over, so that a text is read as if it had its first sign alone
(`Quantity.reads_first_sign`).
-/

set_option autoImplicit false

namespace TenantCloud.Quantity

/-- The grammar of quantities: a numeral with one sign at most. -/
def IsQuantity (cs : List Char) : Prop := ∃ n : Numeral, n.text = cs ∧ n.signs.length ≤ 1

/-- A text without the signs behind a first one. -/
def firstSign : List Char → List Char
  | [] => []
  | c :: cs => c :: if isSign c then cs.dropWhile isSign else cs

theorem firstSign_of_sign {c : Char} (h : isSign c = true) (cs : List Char) :
    firstSign (c :: cs) = c :: cs.dropWhile isSign := by
  simp [firstSign, h]

theorem firstSign_of_not_sign {c : Char} (h : ¬isSign c = true) (cs : List Char) :
    firstSign (c :: cs) = c :: cs := by
  simp [firstSign, h]

/-! ## Passing over signs -/

theorem isNumeric_of_isSign {c : Char} (h : isSign c = true) : isNumeric c = true := by
  simp [isNumeric, h]

theorem dropWhile_isNumeric (cs : List Char) :
    (cs.dropWhile isSign).dropWhile isNumeric = cs.dropWhile isNumeric := by
  induction cs with
  | nil => rfl
  | cons c cs ih =>
    by_cases hc : isSign c = true
    · rw [List.dropWhile_cons_of_pos hc, List.dropWhile_cons_of_pos (isNumeric_of_isSign hc), ih]
    · rw [List.dropWhile_cons_of_neg hc]

theorem takeWhile_isNumeric (cs : List Char) :
    (cs.dropWhile isSign).takeWhile isNumeric = (cs.takeWhile isNumeric).dropWhile isSign := by
  induction cs with
  | nil => rfl
  | cons c cs ih =>
    by_cases hc : isSign c = true
    · rw [List.dropWhile_cons_of_pos hc, List.takeWhile_cons_of_pos (isNumeric_of_isSign hc),
        List.dropWhile_cons_of_pos hc, ih]
    · rw [List.dropWhile_cons_of_neg hc]
      by_cases hn : isNumeric c = true
      · rw [List.takeWhile_cons_of_pos hn, List.dropWhile_cons_of_neg hc]
      · rw [List.takeWhile_cons_of_neg hn]
        rfl

theorem takeWhile_dropWhile (cs : List Char) : (cs.dropWhile isSign).takeWhile isSign = [] := by
  induction cs with
  | nil => rfl
  | cons c cs ih =>
    by_cases hc : isSign c = true
    · rw [List.dropWhile_cons_of_pos hc, ih]
    · rw [List.dropWhile_cons_of_neg hc, List.takeWhile_cons_of_neg hc]

theorem length_signs_firstSign (cs : List Char) :
    ((firstSign cs).takeWhile isSign).length ≤ 1 := by
  cases cs with
  | nil => exact Nat.zero_le 1
  | cons c cs =>
    by_cases hc : isSign c = true
    · rw [firstSign_of_sign hc, List.takeWhile_cons_of_pos hc, takeWhile_dropWhile]
      exact Nat.le_refl 1
    · rw [firstSign_of_not_sign hc, List.takeWhile_cons_of_neg hc]
      exact Nat.zero_le 1

theorem firstSign_trimmed {cs : List Char} (h : Text.Trimmed cs) : Text.Trimmed (firstSign cs) := by
  cases cs with
  | nil => exact h
  | cons c cs =>
    by_cases hc : isSign c = true
    · rw [firstSign_of_sign hc]
      refine ⟨h.head, fun last hlast => ?_⟩
      cases hrest : cs.dropWhile isSign with
      | nil =>
        rw [hrest] at hlast
        obtain rfl : c = last := Option.some.inj hlast
        rcases (by simpa [isSign] using hc : c = '+' ∨ c = '-') with rfl | rfl <;> rfl
      | cons d rest =>
        obtain ⟨signs, hsigns⟩ := List.dropWhile_suffix isSign (l := cs)
        apply h.last last
        rw [← hsigns, hrest, ← List.cons_append, List.getLast?_append]
        rw [hrest, List.getLast?_cons_cons] at hlast
        rw [hlast]
        rfl
    · rw [firstSign_of_not_sign hc]
      exact h

/-- Signs behind a first one change none of the parts. -/
theorem parts?_firstSign (raw : String) :
    parts? (String.ofList (firstSign (Text.trimChars raw.toList))) = parts? raw := by
  have htrim := (firstSign_trimmed (Text.trimmed_trimChars raw.toList)).trimChars_eq
  unfold parts?
  rw [String.toList_ofList, htrim]
  generalize Text.trimChars raw.toList = cs
  cases cs with
  | nil => rfl
  | cons c cs =>
    by_cases hc : isSign c = true
    · have hn := isNumeric_of_isSign hc
      dsimp only
      rw [firstSign_of_sign hc]
      simp only [List.takeWhile_cons_of_pos hn, List.dropWhile_cons_of_pos hn,
        List.dropWhile_cons_of_pos hc, dropWhile_isNumeric, takeWhile_isNumeric,
        List.dropWhile_idempotent, List.head?_cons, List.isEmpty_cons]
    · rw [firstSign_of_not_sign hc]

theorem milli?_firstSign (raw : String) :
    milli? (String.ofList (firstSign (Text.trimChars raw.toList))) = milli? raw := by
  rw [milli?_eq_bind, milli?_eq_bind, parts?_firstSign]

/-! ## The grammar -/

theorem isQuantity_of_milli? {raw : String} (h : (milli? raw).isSome = true)
    (hsigns : ((Text.trimChars raw.toList).takeWhile isSign).length ≤ 1) :
    IsQuantity (Text.trimChars raw.toList) := by
  obtain ⟨m, hm⟩ := Option.isSome_iff_exists.1 h
  obtain ⟨n, htext⟩ := exists_numeral hm
  refine ⟨n, htext, ?_⟩
  rwa [← Numeral.takeWhile_isSign, htext]

/-- **Signs behind a first one are passed over.** A text is read as if it had its first sign alone,
and with that sign alone it is a quantity. So reading keeps to the grammar just where a text has one
sign at most, or is none even with its first sign alone. -/
theorem reads_first_sign (raw : String) :
    milli? raw = milli? (String.ofList (firstSign (Text.trimChars raw.toList))) ∧
      ((milli? raw).isSome = true → IsQuantity (firstSign (Text.trimChars raw.toList))) ∧
        (((milli? raw).isSome = true → IsQuantity (Text.trimChars raw.toList)) ↔
          ((Text.trimChars raw.toList).takeWhile isSign).length ≤ 1 ∨
            milli? (String.ofList (firstSign (Text.trimChars raw.toList))) = none) := by
  have hfirst := milli?_firstSign raw
  refine ⟨hfirst.symm, fun h => ?_, ?_, ?_⟩
  · have htrim := (firstSign_trimmed (Text.trimmed_trimChars raw.toList)).trimChars_eq
    rw [← hfirst] at h
    have hquantity := isQuantity_of_milli? h
    rw [String.toList_ofList, htrim] at hquantity
    exact hquantity (length_signs_firstSign _)
  · intro h
    rw [hfirst]
    cases hm : milli? raw with
    | none => exact .inr rfl
    | some m =>
      obtain ⟨n, htext, hsigns⟩ := h (by rw [hm]; rfl)
      rw [← htext, Numeral.takeWhile_isSign]
      exact .inl hsigns
  · rintro (hsigns | hnone) h
    · exact isQuantity_of_milli? h hsigns
    · rw [← hfirst, hnone] at h
      cases h

/-- A plus and a minus in front of a digit are read, although no quantity starts so. -/
theorem two_signs_are_read : milli? "+-5" = some 5000 ∧
    ¬IsQuantity (Text.trimChars "+-5".toList) := by
  refine ⟨by decide, ?_⟩
  rintro ⟨n, htext, hsigns⟩
  rw [← Numeral.takeWhile_isSign, htext] at hsigns
  exact absurd hsigns (by decide)

end TenantCloud.Quantity
