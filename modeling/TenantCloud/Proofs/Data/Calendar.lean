import TenantCloud.Data.Timestamp

/-!
# The calendar

Years that begin in March have their leap day at their end. A `MarchDay` is a day told in such
years: an era of 400 years, a century of it, a group of four years, a year and a day of the year.
Every day is one (`exists_days_eq`), and year, month and day are read off it in both directions
(`MarchDay.civilOfDays_days`, `MarchDay.daysOfCivil_civil`). So the calendar tells days apart
(`daysOfCivil_civilOfDays`), and what it tells is a day of a month (`isDay_civilOfDays`).
-/

set_option autoImplicit false

namespace TenantCloud.Timestamp

/-- A day of the Gregorian calendar in years that begin in March. -/
structure MarchDay where
  era : Int
  century : Nat
  quad : Nat
  year : Nat
  day : Nat
  century_le : century ≤ 3
  quad_le : quad ≤ 24
  year_le : year ≤ 3
  day_le : day ≤ 365
  /-- The leap day ends a group of four years; the last group of a century has one at the end of an
  era only. -/
  leap : day = 365 → year = 3 ∧ (quad = 24 → century = 3)

namespace MarchDay

variable (p : MarchDay)

/-- The days of the era that came before. -/
def index : Nat := 36524 * p.century + 1461 * p.quad + 365 * p.year + p.day

/-- Days since the first of 1970. -/
def days : Int := p.era * 146097 + p.index - 719468

/-- The years of the era that came before. -/
def yearOfEra : Nat := 100 * p.century + 4 * p.quad + p.year

/-- Months since March, of which five have 153 days. -/
def monthIndex : Nat := (5 * p.day + 2) / 153

def civilMonth : Nat := if p.monthIndex < 10 then p.monthIndex + 3 else p.monthIndex - 9

def civilDay : Nat := p.day - (153 * p.monthIndex + 2) / 5 + 1

/-- January and February are in the year after the one that began in March. -/
def civilYear : Int := p.yearOfEra + p.era * 400 + if p.civilMonth ≤ 2 then 1 else 0

end MarchDay

/-! ## Every day is one -/

/-- A count below `last + 1` parts of a size, or just at their end, lies in one of the parts. -/
theorem exists_part {size last n : Nat} (hsize : 0 < size) (h : n ≤ size * (last + 1)) :
    ∃ k r, k ≤ last ∧ r ≤ size ∧ (r = size → k = last) ∧ n = size * k + r := by
  rcases Nat.lt_or_ge n (size * (last + 1)) with hlt | hge
  · refine ⟨n / size, n % size, ?_, ?_, ?_, ?_⟩
    · exact Nat.lt_succ_iff.1 (Nat.div_lt_of_lt_mul hlt)
    · exact Nat.le_of_lt (Nat.mod_lt n hsize)
    · intro hr
      exact absurd hr (Nat.ne_of_lt (Nat.mod_lt n hsize))
    · exact (Nat.div_add_mod n size).symm
  · have hn : n = size * (last + 1) := Nat.le_antisymm h hge
    exact ⟨last, size, Nat.le_refl _, Nat.le_refl _, fun _ => rfl, hn⟩

theorem exists_days_eq (days : Int) : ∃ p : MarchDay, p.days = days := by
  obtain ⟨n, hn⟩ : ∃ n : Nat, (days + 719468) % 146097 = n :=
    ⟨((days + 719468) % 146097).toNat, by omega⟩
  have hlt : n < 146097 := by omega
  have hcenturies : n ≤ 36524 * (3 + 1) := by omega
  obtain ⟨c, r, hc, hr, hlast, rfl⟩ := exists_part (by decide) hcenturies
  have hq : r / 1461 ≤ 24 := by omega
  have hrest : r % 1461 ≤ 365 * (3 + 1) := by omega
  obtain ⟨y, d, hy, hd, hleap, hyear⟩ := exists_part (by decide) hrest
  have hcentury : d = 365 → r / 1461 = 24 → c = 3 := by
    intro hday hquad
    have := hleap hday
    apply hlast
    omega
  refine ⟨⟨(days + 719468) / 146097, c, r / 1461, y, d, hc, hq, hy, hd, ?_⟩, ?_⟩
  · intro hday
    exact ⟨hleap hday, hcentury hday⟩
  · simp only [MarchDay.days, MarchDay.index]
    omega

/-! ## Year, month and day -/

namespace MarchDay

variable (p : MarchDay)

theorem index_lt : p.index < 146097 := by
  have hc := p.century_le
  have hq := p.quad_le
  have hy := p.year_le
  have hd := p.day_le
  have hleap := p.leap
  unfold index
  omega

theorem yearOfEra_lt : p.yearOfEra < 400 := by
  have hc := p.century_le
  have hq := p.quad_le
  have hy := p.year_le
  unfold yearOfEra
  omega

/-- The leap days that came before are those of every fourth year but of three centuries. -/
theorem index_eq :
    p.index = 365 * p.yearOfEra + p.yearOfEra / 4 - p.yearOfEra / 100 + p.day := by
  have hq := p.quad_le
  have hy := p.year_le
  have hfour : p.yearOfEra / 4 = 25 * p.century + p.quad := by
    unfold yearOfEra
    omega
  have hhundred : p.yearOfEra / 100 = p.century := by
    unfold yearOfEra
    omega
  rw [hfour, hhundred]
  unfold index yearOfEra
  omega

/-- Without the leap days, the year is found by division. -/
theorem yearOfEra_eq :
    (p.index - p.index / 1460 + p.index / 36524 - p.index / 146096) / 365 = p.yearOfEra := by
  have hc := p.century_le
  have hq := p.quad_le
  have hy := p.year_le
  have hd := p.day_le
  have hleap := p.leap
  have hcentury : p.index / 36524 - p.index / 146096 = p.century := by
    unfold index
    omega
  have hquad : p.index / 1460 =
      25 * p.century + p.quad + (24 * p.century + p.quad + 365 * p.year + p.day) / 1460 := by
    unfold index
    omega
  unfold yearOfEra
  have hindex : p.index = 36524 * p.century + 1461 * p.quad + 365 * p.year + p.day := rfl
  omega

theorem civilOfDays_days : civilOfDays p.days = (p.civilYear, p.civilMonth, p.civilDay) := by
  have hlt := p.index_lt
  have hera : (p.days + 719468) / 146097 = p.era := by
    unfold days
    omega
  have hindex : (p.days + 719468 - p.era * 146097).toNat = p.index := by
    unfold days
    omega
  have hday : p.index - (365 * p.yearOfEra + p.yearOfEra / 4 - p.yearOfEra / 100) = p.day := by
    have := p.index_eq
    omega
  simp only [civilOfDays, hera, hindex, p.yearOfEra_eq, hday]
  rfl

theorem monthIndex_le : p.monthIndex ≤ 11 := by
  have hd := p.day_le
  unfold monthIndex
  omega

theorem civilMonth_cases : (p.monthIndex < 10 ∧ p.civilMonth = p.monthIndex + 3) ∨
    (10 ≤ p.monthIndex ∧ p.monthIndex ≤ 11 ∧ p.civilMonth = p.monthIndex - 9) := by
  have hindex := p.monthIndex_le
  unfold civilMonth
  split <;> omega

theorem civilMonth_mem : 1 ≤ p.civilMonth ∧ p.civilMonth ≤ 12 := by
  have hmonth := p.civilMonth_cases
  omega

/-- The day of the year is that of its month after the days of the months before. -/
theorem day_eq : p.day = (153 * p.monthIndex + 2) / 5 + p.civilDay - 1 := by
  unfold civilDay monthIndex
  omega

theorem daysOfCivil_civil : daysOfCivil p.civilYear p.civilMonth p.civilDay = p.days := by
  have hyear : (if p.civilMonth ≤ 2 then p.civilYear - 1 else p.civilYear) =
      p.yearOfEra + p.era * 400 := by
    unfold civilYear
    split <;> omega
  have hlt := p.yearOfEra_lt
  have hera : ((p.yearOfEra : Int) + p.era * 400) / 400 = p.era := by omega
  have hyoe : ((p.yearOfEra : Int) + p.era * 400 - p.era * 400).toNat = p.yearOfEra := by omega
  have hmonth : (if p.civilMonth > 2 then p.civilMonth - 3 else p.civilMonth + 9) =
      p.monthIndex := by
    have hmonth := p.civilMonth_cases
    split <;> omega
  simp only [daysOfCivil, hyear, hera, hyoe, hmonth, ← p.day_eq]
  have hindex := p.index_eq
  unfold days
  omega

/-! ## Lengths of months -/

theorem isLeapYear_of_day (h : p.day = 365) : isLeapYear p.civilYear = true := by
  obtain ⟨hyear, hquad⟩ := p.leap h
  have hq := p.quad_le
  have hmonth : p.civilMonth = 2 := by
    have hindex : p.monthIndex = 11 := by
      unfold monthIndex
      omega
    unfold civilMonth
    rw [hindex]
    rfl
  have hcivil : p.civilYear = 100 * p.century + 4 * p.quad + 4 + p.era * 400 := by
    unfold civilYear yearOfEra
    rw [hmonth, hyear, if_pos (Nat.le_refl 2)]
    omega
  have hfour : p.civilYear % 4 = 0 := by omega
  simp only [isLeapYear, hfour, Bool.and_eq_true, Bool.or_eq_true, bne_iff_ne, beq_iff_eq]
  refine ⟨trivial, ?_⟩
  by_cases hhundred : p.civilYear % 100 = 0
  · right
    omega
  · exact .inl hhundred

/-- How long the months are, counted from March. -/
theorem civilDay_le_of_monthIndex :
    p.civilDay ≤ 31 ∧ (p.monthIndex = 11 → p.civilDay ≤ 29 ∧ (p.civilDay = 29 → p.day = 365)) ∧
      (p.monthIndex ∈ [1, 3, 6, 8] → p.civilDay ≤ 30) := by
  have hday := p.day_le
  simp only [civilDay, monthIndex, List.mem_cons, List.not_mem_nil, or_false]
  refine ⟨?_, ?_, ?_⟩
  · omega
  · intro hindex
    rw [hindex]
    omega
  · rintro (hindex | hindex | hindex | hindex)
    all_goals
      rw [hindex]
      omega

theorem civilDay_le : p.civilDay ≤ daysInMonth p.civilYear p.civilMonth := by
  obtain ⟨hlong, hfebruary, hshort⟩ := p.civilDay_le_of_monthIndex
  have hmonth := p.civilMonth_cases
  unfold daysInMonth
  split
  · rename_i htwo
    obtain ⟨hday, hlast⟩ := hfebruary (by omega)
    split
    · exact hday
    · rename_i hleap
      have hne : p.civilDay ≠ 29 := fun h => hleap (p.isLeapYear_of_day (hlast h))
      omega
  · split
    · rename_i hthirty
      apply hshort
      simp only [List.mem_cons, List.not_mem_nil, or_false] at hthirty ⊢
      omega
    · rw [if_pos p.civilMonth_mem]
      exact hlong

theorem one_le_civilDay : 1 ≤ p.civilDay := Nat.le_add_left _ _

end MarchDay

/-! ## What the calendar tells -/

/-- A day that there is. -/
structure IsDay (date : Int × Nat × Nat) : Prop where
  month : 1 ≤ date.2.1 ∧ date.2.1 ≤ 12
  day : 1 ≤ date.2.2 ∧ date.2.2 ≤ daysInMonth date.1 date.2.1

theorem daysInMonth_le (year : Int) (month : Nat) : daysInMonth year month ≤ 31 := by
  unfold daysInMonth
  split
  · split <;> decide
  · split
    · decide
    · split <;> decide

variable (days : Int)

theorem isDay_civilOfDays : IsDay (civilOfDays days) := by
  obtain ⟨p, rfl⟩ := exists_days_eq days
  rw [p.civilOfDays_days]
  exact ⟨p.civilMonth_mem, p.one_le_civilDay, p.civilDay_le⟩

/-- The calendar tells days apart. -/
theorem daysOfCivil_civilOfDays :
    daysOfCivil (civilOfDays days).1 (civilOfDays days).2.1 (civilOfDays days).2.2 = days := by
  obtain ⟨p, rfl⟩ := exists_days_eq days
  rw [p.civilOfDays_days]
  exact p.daysOfCivil_civil

/-- A day of the years that the calendar covers is told with one of them. -/
theorem civilYear_of_days {p : MarchDay} (hfirst : daysOfCivil firstYear 1 1 ≤ p.days)
    (hlast : p.days ≤ daysOfCivil lastYear 12 31) :
    firstYear ≤ p.civilYear ∧ p.civilYear ≤ lastYear := by
  have hmonth := p.civilMonth_cases
  have hindex : p.monthIndex = (5 * p.day + 2) / 153 := rfl
  have hyear : p.civilYear = p.yearOfEra + p.era * 400 + if p.civilMonth ≤ 2 then 1 else 0 := rfl
  have hdays : p.days = p.era * 146097 + p.index - 719468 := rfl
  have hday := p.day_le
  have hlt := p.index_lt
  have hyoe := p.yearOfEra_lt
  have heq := p.index_eq
  -- The first of January 262144 BC and the last of December 262142, each with its era.
  have hf : daysOfCivil firstYear 1 1 = (-656) * 146097 + 93808 - 719468 := by decide
  have hl : daysOfCivil lastYear 12 31 = 655 * 146097 + 52169 - 719468 := by decide
  rw [hf, hdays] at hfirst
  rw [hl, hdays] at hlast
  have hera : -656 ≤ p.era ∧ p.era ≤ 655 := by omega
  constructor
  · show (-262143 : Int) ≤ _
    rcases Int.lt_or_eq_of_le hera.1 with hera | hera
    · split at hyear <;> omega
    · rw [← hera] at hfirst hyear
      have hyears : 256 ≤ p.yearOfEra := by omega
      have hjanuary : p.yearOfEra = 256 → p.civilMonth ≤ 2 := by omega
      split at hyear <;> omega
  · show _ ≤ (262142 : Int)
    rcases Int.lt_or_eq_of_le hera.2 with hera | hera
    · split at hyear <;> omega
    · rw [hera] at hlast hyear
      have hyears : p.yearOfEra ≤ 142 := by omega
      have hdecember : p.yearOfEra = 142 → 2 < p.civilMonth := by omega
      split at hyear <;> omega

theorem year_civilOfDays {days : Int} (hfirst : daysOfCivil firstYear 1 1 ≤ days)
    (hlast : days ≤ daysOfCivil lastYear 12 31) :
    firstYear ≤ (civilOfDays days).1 ∧ (civilOfDays days).1 ≤ lastYear := by
  obtain ⟨p, rfl⟩ := exists_days_eq days
  rw [p.civilOfDays_days]
  exact civilYear_of_days hfirst hlast

end TenantCloud.Timestamp
