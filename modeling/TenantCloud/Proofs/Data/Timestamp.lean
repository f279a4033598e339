import TenantCloud.Proofs.Data.Calendar
import TenantCloud.Proofs.Text.Blank
import TenantCloud.Proofs.Text.Digits

/-!
# Moments that are read again

A moment that was read lies in a year that the calendar covers, and a leap second in it ends a
minute (`inDomain_of_parse?`). So it is read again from what it is written as to the second, but
for its fraction (`parse?_renderSeconds`), and what is read then is written the same
(`renderSeconds_toSecond`).
-/

set_option autoImplicit false

namespace TenantCloud.Timestamp

open Text Text.Digits

variable {t : Timestamp}

/-- What was read, as far as it can be told from it. -/
structure InDomain (t : Timestamp) : Prop where
  covered : t.isCovered = true
  /-- A leap second is the last one of its minute. -/
  leap : billion ≤ t.nanos → t.seconds % 60 = 59

/-- `t` without its fraction; a leap second stays one. -/
def toSecond (t : Timestamp) : Timestamp := ⟨t.seconds, if billion ≤ t.nanos then billion else 0⟩

theorem renderSeconds_toSecond (t : Timestamp) : t.toSecond.renderSeconds = t.renderSeconds := by
  have hleap : billion ≤ t.toSecond.nanos ↔ billion ≤ t.nanos := by
    by_cases h : billion ≤ t.nanos
    · simp [toSecond, h]
    · simp only [toSecond, h, iff_false]
      decide
  unfold renderSeconds renderClock
  simp only [hleap]
  rfl

/-! ## What is read -/

namespace Reader

variable {α β : Type} {P : α → Prop} {Q : β → Prop}

/-- Whatever is read satisfies `P`. -/
structure Yields (x : Reader α) (P : α → Prop) : Prop where
  run : ∀ {cs rest : List Char} {a : α}, x.run cs = some (a, rest) → P a

theorem yields_any (x : Reader α) : Yields x fun _ => True := ⟨fun _ => trivial⟩

theorem yields_failure : Yields (failure : Reader α) P := ⟨nofun⟩

theorem yields_pure {a : α} (h : P a) : Yields (pure a : Reader α) P := by
  constructor
  intro cs rest b hb
  cases hb
  exact h

theorem yields_lift {x : Option α} (h : ∀ a, x = some a → P a) :
    Yields (liftM x : Reader α) P := by
  constructor
  intro cs rest a ha
  cases x with
  | none => cases ha
  | some b =>
    cases ha
    exact h _ rfl

theorem Yields.bind {x : Reader α} {f : α → Reader β} (hx : Yields x P)
    (hf : ∀ a, P a → Yields (f a) Q) : Yields (x >>= f) Q := by
  constructor
  intro cs rest b h
  rw [StateT.run_bind, Option.bind_eq_bind, Option.bind_eq_some_iff] at h
  obtain ⟨⟨a, cs'⟩, ha, hb⟩ := h
  exact (hf a (hx.run ha)).run hb

/-- Nothing of interest is read first. -/
theorem yields_after {x : Reader α} {f : α → Reader β} (hf : ∀ a, Yields (f a) Q) :
    Yields (x >>= f) Q :=
  (yields_any x).bind fun a _ => hf a

theorem fraction_yields : Yields fraction (· < billion) := by
  unfold fraction
  apply yields_after
  intro cs
  split
  · rename_i rest
    apply yields_after
    intro _
    apply Yields.bind (yields_lift fun _ => id)
    intro n hn
    apply yields_pure
    have hkept : n < 10 ^ ((rest.takeWhile isDigit).take 9).length := by
      unfold read? at hn
      split at hn
      · cases hn
      · rename_i hdigits
        cases hn
        apply value_lt
        simp_all
    have hlen : ((rest.takeWhile isDigit).take 9).length ≤ 9 := List.length_take_le _ _
    calc n * 10 ^ (9 - ((rest.takeWhile isDigit).take 9).length)
        < 10 ^ ((rest.takeWhile isDigit).take 9).length *
          10 ^ (9 - ((rest.takeWhile isDigit).take 9).length) :=
          Nat.mul_lt_mul_of_pos_right hkept (Nat.pow_pos (by decide))
      _ = billion := by
          rw [← Nat.pow_add, Nat.add_sub_cancel' hlen]
          rfl
  · exact yields_pure (by decide)

/-- Zones are whole minutes from UTC. -/
theorem offset_yields : Yields offset (· % 60 = 0) := by
  have hzone : ∀ sign : Int, Yields (do
      let h ← twoDigits
      modify (·.dropWhile fun c => c == ':' || isBlank c)
      let m ← twoDigits
      if m < 60 ∧ h * 3600 + m * 60 < 86400 then return sign * Int.ofNat (h * 3600 + m * 60)
      else failure) (· % 60 = 0) := by
    intro sign
    apply yields_after
    intro h
    apply yields_after
    intro _
    apply yields_after
    intro m
    split
    · apply yields_pure
      have hminutes : Int.ofNat (h * 3600 + m * 60) = (h * 60 + m : Nat) * 60 := by
        simp
        omega
      rw [hminutes, ← Int.mul_assoc]
      exact Int.mul_emod_left _ _
    · exact yields_failure
  unfold offset
  apply yields_after
  intro _
  apply yields_after
  intro cs
  dsimp only
  split
  · exact yields_after fun _ => yields_pure rfl
  · split
    · exact yields_after fun _ => yields_pure rfl
    · exact yields_after fun _ => yields_pure rfl
    · apply yields_after
      intro _
      split
      · exact yields_after hzone
      · split
        · exact yields_after hzone
        · exact yields_after hzone
    · exact yields_failure

theorem timestamp_yields : Yields timestamp InDomain := by
  unfold timestamp
  -- Year, month, day, hour, minute and second, with what stands in front of each of them.
  iterate 15
    apply yields_after
    intro _
  rename_i s
  apply Yields.bind fraction_yields
  intro f hf
  apply Yields.bind offset_yields
  intro off hoff
  iterate 2
    apply yields_after
    intro _
  -- Only a second numbered 60 is a leap second, and it counts as the one before.
  by_cases hs : s = 60
  · rw [if_pos hs]
    split
    · rename_i h
      apply yields_pure
      refine ⟨h.2.2.2, ?_⟩
      intro _
      simp only [Int.ofNat_eq_natCast]
      omega
    · exact yields_failure
  · rw [if_neg hs]
    split
    · rename_i h
      apply yields_pure
      refine ⟨h.2.2.2, ?_⟩
      intro hleap
      exact absurd hleap (Nat.not_le_of_lt hf)
    · exact yields_failure

end Reader

theorem inDomain_of_parse? {s : String} (h : parse? s = some t) : InDomain t := by
  obtain ⟨⟨a, rest⟩, hread, rfl⟩ := Option.map_eq_some_iff.1 h
  exact Reader.timestamp_yields.run hread

/-! ## What is written is read -/

namespace Reader

variable {α β : Type} {cs rest : List Char} {n : Nat}

theorem run_bind {x : Reader α} {f : α → Reader β} {a : α} (h : x.run cs = some (a, rest)) :
    (x >>= f).run cs = (f a).run rest := by
  rw [StateT.run_bind, h]
  rfl

theorem get_run (cs : List Char) : (get : Reader (List Char)).run cs = some (cs, cs) := rfl

theorem blanks_run (h : ∀ c, cs.head? = some c → isBlank c = false) :
    blanks.run cs = some ((), cs) :=
  congrArg (fun cs => some ((), cs)) (dropWhile_isBlank h)

theorem char_run {p : Char → Bool} {c : Char} (h : p c = true) :
    (char p).run (c :: cs) = some (c, cs) := by
  show ((if p c then _ else _ : Reader Char)).run (c :: cs) = _
  rw [if_pos h]
  rfl

/-- A number ends where its digits do. -/
theorem number_run {width : Option Nat} (h : Spells cs n) (hwidth : ∀ w ∈ width, cs.length ≤ w)
    (hrest : ∀ c, rest.head? = some c → isDigit c = false) :
    (number width).run (cs ++ rest) = some (n, rest) := by
  have hend : rest.takeWhile isDigit = [] := by
    cases rest with
    | nil => rfl
    | cons c rest => exact List.takeWhile_cons_of_neg (by simp [hrest c rfl])
  have hdigits : (cs ++ rest).takeWhile isDigit = cs := by
    rw [List.takeWhile_append_of_pos h.digits, hend, List.append_nil]
  have hread : ∀ ds, ds = cs → Option.bind (read? ds)
      (fun n => some (n, (cs ++ rest).drop ds.length)) = some (n, rest) := by
    rintro _ rfl
    rw [read?_eq_some_iff.2 h, Option.bind_some, List.drop_left]
  cases width with
  | none => exact hread _ hdigits
  | some w =>
    apply hread (((cs ++ rest).takeWhile isDigit).take w)
    rw [hdigits, List.take_of_length_le (hwidth w rfl)]

theorem isBlank_head_padded (width n : Nat) (rest : List Char) :
    ∀ c, ((padded width n).toList ++ rest).head? = some c → isBlank c = false := by
  obtain ⟨hne, hdigits, -⟩ := spells_padded width n
  intro c hc
  rw [List.head?_append_of_ne_nil _ hne] at hc
  exact isBlank_of_isDigit (hdigits c (List.mem_of_head? hc))

/-- A number written in its width is read by its field. -/
theorem field_run {lo hi : Nat} (hmem : lo ≤ n ∧ n ≤ hi) (hn : n ≤ 99)
    (hrest : ∀ c, rest.head? = some c → isDigit c = false) :
    (field 2 lo hi).run ((padded 2 n).toList ++ rest) = some (n, rest) := by
  have hlen : (padded 2 n).toList.length = 2 := length_padded (by decide) (Nat.lt_succ_of_le hn)
  unfold field
  rw [run_bind (blanks_run (isBlank_head_padded 2 n rest)),
    run_bind (number_run (spells_padded 2 n) (by simp [hlen]) hrest), if_pos hmem]
  rfl

/-- Four digits are a year, and so are digits behind a sign. -/
theorem year_digits_run (h : Spells cs n) (hlen : cs.length ≤ 4)
    (hrest : ∀ c, rest.head? = some c → isDigit c = false) :
    year.run (cs ++ rest) = some ((n : Int), rest) := by
  have hnumber : (number (some 4)).run (cs ++ rest) = some (n, rest) :=
    number_run h (by simp [hlen]) hrest
  cases cs with
  | nil => exact absurd rfl h.nonempty
  | cons c cs =>
    obtain ⟨hplus, hminus⟩ := h.not_sign
    have hblank := isBlank_of_isDigit (h.digits c List.mem_cons_self)
    have hhead : ∀ c', (c :: cs ++ rest).head? = some c' → isBlank c' = false := by
      simp [hblank]
    unfold year
    rw [run_bind (blanks_run hhead), run_bind (get_run _)]
    split
    · rename_i heq
      cases heq
      exact absurd rfl hminus
    · rename_i heq
      cases heq
      exact absurd rfl hplus
    · rw [run_bind hnumber]
      rfl

theorem year_signed_run (h : Spells cs n) (hrest : ∀ c, rest.head? = some c → isDigit c = false) :
    year.run ('-' :: (cs ++ rest)) = some (-(n : Int), rest) ∧
      year.run ('+' :: (cs ++ rest)) = some ((n : Int), rest) := by
  have hnumber : (number none).run (cs ++ rest) = some (n, rest) := number_run h (by simp) hrest
  have hhead : ∀ c, c = '-' ∨ c = '+' → ∀ c', (c :: (cs ++ rest)).head? = some c' →
      isBlank c' = false := by
    rintro c (rfl | rfl) _ ⟨⟩ <;> decide
  unfold year
  constructor
  · rw [run_bind (blanks_run (hhead '-' (.inl rfl))), run_bind (get_run _)]
    show ((do let n ← number none; return -(Int.ofNat n)) : Reader Int).run (cs ++ rest) = _
    rw [run_bind hnumber]
    rfl
  · rw [run_bind (blanks_run (hhead '+' (.inr rfl))), run_bind (get_run _)]
    show ((do let n ← number none; return Int.ofNat n) : Reader Int).run (cs ++ rest) = _
    rw [run_bind hnumber]
    rfl

theorem year_run (y : Int) (hrest : ∀ c, rest.head? = some c → isDigit c = false) :
    year.run ((renderYear y).toList ++ rest) = some (y, rest) := by
  unfold renderYear
  split
  · rename_i hy
    have hlen : (padded 4 y.toNat).toList.length = 4 := length_padded (by decide) (by omega)
    rw [year_digits_run (spells_padded 4 y.toNat) (Nat.le_of_eq hlen) hrest,
      Int.toNat_of_nonneg hy.1]
  · obtain ⟨hminus, hplus⟩ := year_signed_run (spells_padded 4 y.natAbs) hrest
    rw [String.toList_append]
    split
    · rename_i hneg
      refine hminus.trans ?_
      rw [Int.ofNat_natAbs_of_nonpos (Int.le_of_lt hneg), Int.neg_neg]
    · rename_i hneg
      refine hplus.trans ?_
      rw [Int.natAbs_of_nonneg (Int.not_lt.1 hneg)]

theorem fraction_run : fraction.run ['Z'] = some (0, ['Z']) := rfl

theorem offset_run : offset.run ['Z'] = some (0, []) := rfl

/-- A date, a time of day and `Z` are read as the moment that they tell. -/
theorem timestamp_run {y : Int} {mo d h mi s : Nat} (hmonth : 1 ≤ mo ∧ mo ≤ 12)
    (hday : 1 ≤ d ∧ d ≤ daysInMonth y mo) (hh : h ≤ 23) (hmi : mi ≤ 59) (hs : s ≤ 60)
    (hyear : firstYear ≤ y ∧ y ≤ lastYear) (ht : t = ⟨daysOfCivil y mo d * 86400 +
      Int.ofNat (h * 3600 + mi * 60 + min s 59), if s = 60 then billion else 0⟩)
    (hcovered : t.isCovered = true) :
    timestamp.run ((renderYear y).toList ++ '-' :: ((padded 2 mo).toList ++
      '-' :: ((padded 2 d).toList ++ 'T' :: ((padded 2 h).toList ++
        ':' :: ((padded 2 mi).toList ++ ':' :: ((padded 2 s).toList ++ ['Z'])))))) =
      some (t, []) := by
  have hdays := daysInMonth_le y mo
  have hend : ∀ {c : Char} {rest : List Char}, isDigit c = false →
      ∀ c', (c :: rest).head? = some c' → isDigit c' = false := by
    rintro c rest hc _ ⟨⟩
    exact hc
  have hblank : ∀ {c : Char} {rest : List Char}, isBlank c = false →
      ∀ c', (c :: rest).head? = some c' → isBlank c' = false := by
    rintro c rest hc _ ⟨⟩
    exact hc
  have hnone : ∀ c, [].head? = some c → isBlank c = false := by
    intro c hc
    cases hc
  unfold timestamp
  rw [run_bind (year_run y (hend (by decide))),
    run_bind (blanks_run (hblank (by decide))), run_bind (char_run (by decide)),
    run_bind (field_run hmonth (by omega) (hend (by decide))),
    run_bind (blanks_run (hblank (by decide))), run_bind (char_run (by decide)),
    run_bind (field_run hday (by omega) (hend (by decide))), run_bind (char_run (by decide)),
    run_bind (field_run ⟨Nat.zero_le h, hh⟩ (by omega) (hend (by decide))),
    run_bind (blanks_run (hblank (by decide))), run_bind (char_run (by decide)),
    run_bind (field_run ⟨Nat.zero_le mi, hmi⟩ (by omega) (hend (by decide))),
    run_bind (blanks_run (hblank (by decide))), run_bind (char_run (by decide)),
    run_bind (field_run ⟨Nat.zero_le s, hs⟩ (by omega) (hend (by decide))),
    run_bind fraction_run, run_bind offset_run, run_bind (blanks_run hnone),
    run_bind (get_run [])]
  rw [Int.sub_zero, Nat.zero_add, ← ht, if_pos ⟨rfl, hyear.1, hyear.2, hcovered⟩]
  rfl

end Reader

/-- The text of a moment to the second, by its parts. -/
theorem toList_renderSeconds {y : Int} {m d secs : Nat}
    (hdate : civilOfDays (t.seconds / 86400) = (y, m, d))
    (hsecs : (t.seconds - t.seconds / 86400 * 86400).toNat = secs) :
    t.renderSeconds.toList =
      (renderYear y).toList ++ '-' :: ((padded 2 m).toList ++ '-' :: ((padded 2 d).toList ++
        'T' :: ((padded 2 (secs / 3600)).toList ++ ':' :: ((padded 2 (secs / 60 % 60)).toList ++
          ':' :: ((padded 2 (secs % 60 + if billion ≤ t.nanos then 1 else 0)).toList ++
            ['Z']))))) := by
  simp only [renderSeconds, renderClock, hdate, hsecs, String.toList_append]
  simp

/-- A moment that was read is read again, but for its fraction. -/
theorem parse?_renderSeconds (h : InDomain t) : parse? t.renderSeconds = some t.toSecond := by
  obtain ⟨hcovered, hleap⟩ := h
  have hbounds : daysOfCivil firstYear 1 1 ≤ t.seconds / 86400 ∧
      t.seconds / 86400 ≤ daysOfCivil lastYear 12 31 := by
    simpa [isCovered] using hcovered
  have hdate := isDay_civilOfDays (t.seconds / 86400)
  have hyear := year_civilOfDays hbounds.1 hbounds.2
  have hdays := daysOfCivil_civilOfDays (t.seconds / 86400)
  generalize hcivil : civilOfDays (t.seconds / 86400) = date at hdate hyear hdays
  obtain ⟨y, m, d⟩ := date
  generalize hsecs : (t.seconds - t.seconds / 86400 * 86400).toNat = secs
  have htold : t.toSecond = ⟨daysOfCivil y m d * 86400 + Int.ofNat (secs / 3600 * 3600 +
      secs / 60 % 60 * 60 + min (secs % 60 + if billion ≤ t.nanos then 1 else 0) 59),
      if secs % 60 + (if billion ≤ t.nanos then 1 else 0) = 60 then billion else 0⟩ := by
    simp only at hdays
    unfold toSecond
    split
    · have := hleap ‹_›
      rw [if_pos (by omega)]
      congr 1
      rw [Int.ofNat_eq_natCast]
      omega
    · rw [if_neg (by omega)]
      congr 1
      rw [Int.ofNat_eq_natCast]
      omega
  have hhour : secs / 3600 ≤ 23 := by omega
  have hminute : secs / 60 % 60 ≤ 59 := by omega
  have hsecond : secs % 60 + (if billion ≤ t.nanos then 1 else 0) ≤ 60 := by split <;> omega
  unfold parse?
  rw [toList_renderSeconds hcivil hsecs, Reader.timestamp_run hdate.month hdate.day hhour hminute
    hsecond hyear htold hcovered]
  rfl

end TenantCloud.Timestamp
