import Agora.Time.Stamp

set_option autoImplicit false

namespace Agora.Time

/-- The year of an era in which a day of the era lies. -/
def yearOfEra (day : Nat) : Nat := (day - day / 1460 + day / 36524 - day / 146096) / 365

/-- The days of an era before a year of it. -/
def daysBefore (year : Nat) : Nat := 365 * year + year / 4 - year / 100

/-- The day of its year, counted from March, that a day of an era is. -/
def dayOfYear (day : Nat) : Nat := day - daysBefore (yearOfEra day)

/-- A day lies in one of four centuries, in one of its runs of four years and in a year of the run;
only the very last day of an era lies in none. -/
theorem yearOfEra_eq {day : Nat} (inside : day < 146096) :
    ∃ century run year, century < 4 ∧ run < 25 ∧ year < 4 ∧
      yearOfEra day = 100 * century + 4 * run + year ∧
      36524 * century + 1461 * run + 365 * year ≤ day ∧
      day ≤ 36524 * century + 1461 * run + 365 * year + 365 ∧
      (day = 36524 * century + 1461 * run + 365 * year + 365 → year = 3 ∧ run < 24) := by
  obtain ⟨century, centuryDay, split, short⟩ :
      ∃ century centuryDay, day = 36524 * century + centuryDay ∧ centuryDay < 36524 :=
    ⟨day / 36524, day % 36524, by omega, by omega⟩
  obtain ⟨run, runDay, runSplit, runShort⟩ :
      ∃ run runDay, centuryDay = 1461 * run + runDay ∧ runDay < 1461 :=
    ⟨centuryDay / 1461, centuryDay % 1461, by omega, by omega⟩
  have fourth : day / 36524 = century ∧ day / 146096 = 0 := by omega
  -- A run has 1461 days and not 1460, so the division is off by one at the end of late runs only.
  have runs : day / 1460 = 25 * century + run ∨
      day / 1460 = 25 * century + run + 1 ∧ 1360 ≤ runDay := by omega
  have last : runDay = 1460 → day / 1460 = 25 * century + run + 1 := by omega
  have lastRun : runDay = 1460 → run < 24 := by omega
  have rest : day - day / 1460 + century = 1460 * (25 * century + run) +
      (25 * century + run + runDay - day / 1460) := by omega
  have year : ∃ year, year < 4 ∧ yearOfEra day = 4 * (25 * century + run) + year ∧
      365 * year ≤ runDay ∧ runDay ≤ 365 * year + 365 ∧
      (runDay = 365 * year + 365 → year = 3) := by
    unfold yearOfEra
    rw [fourth.1, fourth.2, rest]
    rcases Nat.lt_or_ge runDay 365 with first | later
    · exact ⟨0, by omega⟩
    rcases Nat.lt_or_ge runDay 730 with second | later
    · exact ⟨1, by omega⟩
    rcases Nat.lt_or_ge runDay 1095 with third | later
    · exact ⟨2, by omega⟩
    · exact ⟨3, by omega⟩
  obtain ⟨year, bound, found, low, high, leap⟩ := year
  exact ⟨century, run, year, by omega⟩

theorem daysBefore_eq (century : Nat) {run year : Nat} (runs : run < 25) (years : year < 4) :
    daysBefore (100 * century + 4 * run + year) = 36524 * century + 1461 * run + 365 * year := by
  unfold daysBefore
  omega

/-- The year of a day begins no later than the day and has at most 366 days, 366 in leap years
only. -/
theorem dayOfYear_bounds {day : Nat} (inside : day < 146097) :
    yearOfEra day < 400 ∧ daysBefore (yearOfEra day) + dayOfYear day = day ∧
      dayOfYear day ≤ 365 ∧ (dayOfYear day = 365 → isLeapYear (yearOfEra day + 1) = true) := by
  rcases Nat.lt_or_ge day 146096 with early | last
  · obtain ⟨century, run, year, centuries, runs, years, found, low, high, leap⟩ :=
      yearOfEra_eq early
    have before := daysBefore_eq century runs years
    rw [dayOfYear, found, before]
    refine ⟨by omega, by omega, by omega, fun longest => ?_⟩
    obtain ⟨third, short⟩ := leap (by omega)
    subst third
    simp only [isLeapYear, Bool.or_eq_true, Bool.and_eq_true, beq_iff_eq, bne_iff_ne]
    omega
  · obtain rfl : day = 146096 := by omega
    decide

/-- The months from March on: a day of a year lies in one of twelve, no later than its end. -/
theorem month_of_dayOfYear : ∀ day ≤ 365,
    let month := (5 * day + 2) / 153
    month < 12 ∧ (153 * month + 2) / 5 ≤ day ∧
      (month ≠ 11 → day - (153 * month + 2) / 5 + 1 ≤
        daysInMonth 0 (if month < 10 then month + 3 else month - 9)) ∧
      (month = 11 → day - (153 * month + 2) / 5 + 1 ≤ if day = 365 then 29 else 28) := by
  decide +kernel

namespace Date

/-- The parts that the date of a day is made of, and how far they reach. -/
structure Parts (days : Int) (era : Int) (year day month : Nat) : Prop where
  year_lt : year < 400
  day_le : day ≤ 365
  month_lt : month < 12
  total : days + 719468 = era * 146097 + daysBefore year + day
  start : (153 * month + 2) / 5 ≤ day
  length : month ≠ 11 → day - (153 * month + 2) / 5 + 1 ≤
    daysInMonth 0 (if month < 10 then month + 3 else month - 9)
  february : month = 11 → day - (153 * month + 2) / 5 + 1 ≤ if day = 365 then 29 else 28
  leap : day = 365 → isLeapYear (year + 1) = true

def ofParts (era : Int) (year day month : Nat) : Date :=
  let start := (153 * month + 2) / 5
  let number := if month < 10 then month + 3 else month - 9
  let counted := Int.ofNat year + era * 400
  ⟨if number ≤ 2 then counted + 1 else counted, number, day - start + 1⟩

theorem ofDays_parts (days : Int) :
    ∃ era year day month, Parts days era year day month ∧
      ofDays days = ofParts era year day month := by
  have inside : ((days + 719468) % 146097).toNat < 146097 := by omega
  obtain ⟨year_lt, split, day_le, leap⟩ := dayOfYear_bounds inside
  obtain ⟨month_lt, start, length, february⟩ := month_of_dayOfYear _ day_le
  refine ⟨(days + 719468) / 146097, yearOfEra ((days + 719468) % 146097).toNat,
    dayOfYear ((days + 719468) % 146097).toNat, _, ?_, rfl⟩
  exact ⟨year_lt, day_le, month_lt, by omega, start, length, february, leap⟩

theorem ofParts_of_early {month : Nat} (early : month < 10) (era : Int) (year day : Nat) :
    ofParts era year day month =
      ⟨year + era * 400, month + 3, day - (153 * month + 2) / 5 + 1⟩ := by
  have spring : ¬ month + 3 ≤ 2 := by omega
  simp only [ofParts, early, spring, ↓reduceIte, Int.ofNat_eq_natCast]

theorem ofParts_of_late {month : Nat} (late : ¬ month < 10) (bound : month < 12) (era : Int)
    (year day : Nat) :
    ofParts era year day month =
      ⟨year + era * 400 + 1, month - 9, day - (153 * month + 2) / 5 + 1⟩ := by
  have winter : month - 9 ≤ 2 := by omega
  simp only [ofParts, late, winter, ↓reduceIte, Int.ofNat_eq_natCast]

theorem isLeapYear_era (year era : Int) : isLeapYear (year + era * 400) = isLeapYear year := by
  have fourth : (year + era * 400) % 4 = year % 4 := by omega
  have hundredth : (year + era * 400) % 100 = year % 100 := by omega
  have whole : (year + era * 400) % 400 = year % 400 := by omega
  rw [isLeapYear, isLeapYear, fourth, hundredth, whole]

theorem daysInMonth_of_ne {year : Int} {month : Nat} (other : month ≠ 2) :
    daysInMonth year month = daysInMonth 0 month := by
  rw [daysInMonth, daysInMonth, if_neg other, if_neg other]

variable {days era : Int} {year day month : Nat}

theorem Parts.february_le (parts : Parts days era year day 11) :
    day - (153 * 11 + 2) / 5 + 1 ≤ daysInMonth (year + era * 400 + 1) 2 := by
  have length := parts.february rfl
  refine Nat.le_trans length ?_
  rw [daysInMonth, if_pos rfl]
  by_cases longest : day = 365
  · have turned : (year + era * 400 + 1 : Int) = (year + 1 : Int) + era * 400 := by omega
    rw [if_pos longest, turned, isLeapYear_era, parts.leap longest]
    exact Nat.le_refl 29
  · rw [if_neg longest]
    split
    · decide
    · exact Nat.le_refl 28

theorem Parts.valid (parts : Parts days era year day month) :
    (ofParts era year day month).valid = true := by
  have start := parts.start
  have bound := parts.month_lt
  by_cases early : month < 10
  · have length := parts.length (by omega)
    rw [if_pos early] at length
    rw [ofParts_of_early early]
    simp only [Date.valid, Bool.and_eq_true, decide_eq_true_eq]
    rw [daysInMonth_of_ne (by omega)]
    exact ⟨⟨⟨by omega, by omega⟩, by omega⟩, length⟩
  · rw [ofParts_of_late early bound]
    simp only [Date.valid, Bool.and_eq_true, decide_eq_true_eq]
    refine ⟨⟨⟨by omega, by omega⟩, by omega⟩, ?_⟩
    by_cases last : month = 11
    · subst last
      exact parts.february_le
    · have length := parts.length last
      rw [if_neg early] at length
      rw [daysInMonth_of_ne (by omega)]
      exact length

theorem Parts.toDays (parts : Parts days era year day month) :
    (ofParts era year day month).toDays = days := by
  have start := parts.start
  have bound := parts.month_lt
  have yearBound := parts.year_lt
  have total := parts.total
  unfold daysBefore at total
  by_cases early : month < 10
  · have spring : ¬ month + 3 ≤ 2 := by omega
    have fromMarch : (month + 3 + 9) % 12 = month := by omega
    have eras : (year + era * 400 : Int) / 400 = era ∧ (year + era * 400 : Int) % 400 = year := by
      omega
    rw [ofParts_of_early early]
    simp only [Date.toDays, spring, fromMarch, eras, ↓reduceIte]
    omega
  · have winter : month - 9 ≤ 2 := by omega
    have fromMarch : (month - 9 + 9) % 12 = month := by omega
    have eras : (year + era * 400 + 1 - 1 : Int) / 400 = era ∧
        (year + era * 400 + 1 - 1 : Int) % 400 = year := by omega
    rw [ofParts_of_late early bound]
    simp only [Date.toDays, winter, fromMarch, eras, ↓reduceIte]
    omega

/-- Every day has a date that exists and counts back to the day. -/
theorem toDays_ofDays (days : Int) :
    (ofDays days).toDays = days ∧ (ofDays days).valid = true := by
  obtain ⟨era, year, day, month, parts, date⟩ := ofDays_parts days
  rw [date]
  exact ⟨parts.toDays, parts.valid⟩

end Date

end Agora.Time
