import ProductCatalog.Time.Date

/-! The count of a day and the day of a count are inverse to each other. -/

namespace ProductCatalog.Time.Date

/-- A count of days taken apart into cycles. Years begin in March. -/
structure Cycles where
  era : Int
  century : Int
  olympiad : Int
  year : Int
  dayOfYear : Int

namespace Cycles

def marchYear (cycles : Cycles) : Int :=
  400 * cycles.era + 100 * cycles.century + 4 * cycles.olympiad + cycles.year

def days (cycles : Cycles) : Int :=
  146097 * cycles.era + 36524 * cycles.century + 1461 * cycles.olympiad + 365 * cycles.year +
    cycles.dayOfYear

structure Proper (cycles : Cycles) : Prop where
  century : 0 ≤ cycles.century ∧ cycles.century ≤ 3
  olympiad : 0 ≤ cycles.olympiad ∧ cycles.olympiad ≤ 24
  year : 0 ≤ cycles.year ∧ cycles.year ≤ 3
  dayOfYear : 0 ≤ cycles.dayOfYear ∧ cycles.dayOfYear ≤ 365
  /-- Only a leap year has a last day. -/
  leap : cycles.dayOfYear = 365 → cycles.year = 3 ∧ (cycles.olympiad = 24 → cycles.century = 3)

def ofDays (days : Int) : Cycles :=
  let ofEra := days % 146097
  let century := min (ofEra / 36524) 3
  let ofCentury := ofEra - century * 36524
  let ofOlympiad := ofCentury % 1461
  let year := min (ofOlympiad / 365) 3
  ⟨days / 146097, century, ofCentury / 1461, year, ofOlympiad - year * 365⟩

theorem ofDays_proper (days : Int) : (ofDays days).Proper ∧ (ofDays days).days = days := by
  have era := Int.emod_nonneg days (b := 146097) (by decide)
  have whole := Int.emod_lt_of_pos days (b := 146097) (by decide)
  unfold ofDays Cycles.days
  generalize split : days % 146097 = ofEra at era whole
  dsimp only
  generalize chosen : min (ofEra / 36524) 3 = century
  generalize rest : ofEra - century * 36524 = ofCentury
  generalize four : ofCentury % 1461 = ofOlympiad
  generalize one : min (ofOlympiad / 365) 3 = year
  have century_bounds : 0 ≤ century ∧ century ≤ 3 ∧ 0 ≤ ofCentury ∧ ofCentury ≤ 36524 ∧
      (ofCentury = 36524 → century = 3) := by omega
  have olympiad_bounds : 0 ≤ ofCentury / 1461 ∧ ofCentury / 1461 ≤ 24 ∧ 0 ≤ ofOlympiad ∧
      ofOlympiad ≤ 1460 := by omega
  have year_bounds : 0 ≤ year ∧ year ≤ 3 ∧ 0 ≤ ofOlympiad - year * 365 ∧
      ofOlympiad - year * 365 ≤ 365 := by omega
  refine ⟨?_, by omega⟩
  constructor <;> dsimp only <;> omega

def monthOfYear (cycles : Cycles) : Int :=
  (5 * cycles.dayOfYear + 2) / 153

def dayOfMonth (cycles : Cycles) : Int :=
  cycles.dayOfYear - (153 * cycles.monthOfYear + 2) / 5 + 1

/-- The date of a count of days. January and February belong to the next year. -/
def date (cycles : Cycles) : Date :=
  if cycles.monthOfYear < 10 then
    ⟨cycles.marchYear, (cycles.monthOfYear + 3).toNat, cycles.dayOfMonth.toNat⟩
  else ⟨cycles.marchYear + 1, (cycles.monthOfYear - 9).toNat, cycles.dayOfMonth.toNat⟩

theorem toDays_date {cycles : Cycles} (proper : cycles.Proper) :
    cycles.date.toDays = cycles.days - epochOffset := by
  obtain ⟨century, olympiad, year, dayOfYear, -⟩ := proper
  have leap_days : cycles.marchYear / 4 - cycles.marchYear / 100 + cycles.marchYear / 400 =
      97 * cycles.era + 24 * cycles.century + cycles.olympiad := by
    unfold marchYear
    omega
  have days : cycles.days = 365 * cycles.marchYear + (cycles.marchYear / 4 -
      cycles.marchYear / 100 + cycles.marchYear / 400) + cycles.dayOfYear := by
    rw [leap_days, Cycles.days, marchYear]
    omega
  have month : 0 ≤ cycles.monthOfYear ∧ cycles.monthOfYear ≤ 11 := by
    unfold monthOfYear
    omega
  have day : 1 ≤ cycles.dayOfMonth := by
    unfold dayOfMonth monthOfYear
    omega
  have day_eq : cycles.dayOfMonth =
      cycles.dayOfYear - (153 * cycles.monthOfYear + 2) / 5 + 1 := rfl
  clear leap_days
  rw [days, date]
  generalize cycles.monthOfYear = months at month day_eq
  generalize cycles.dayOfMonth = dayOfMonth at day day_eq
  generalize cycles.marchYear = marchYear
  split
  · rename_i same_year
    have spring : ¬(months + 3).toNat ≤ 2 := by omega
    simp only [toDays, if_neg spring]
    omega
  · rename_i next_year
    have winter : (months - 9).toNat ≤ 2 := by omega
    simp only [toDays, if_pos winter]
    have back : marchYear + 1 - 1 = marchYear := by omega
    rw [back]
    omega

theorem leap_of_last_day {cycles : Cycles} (proper : cycles.Proper)
    (last : cycles.dayOfYear = 365) : isLeapYear (cycles.marchYear + 1) = true := by
  obtain ⟨century, olympiad, -, -, leap⟩ := proper
  obtain ⟨year, last_olympiad⟩ := leap last
  simp only [isLeapYear, marchYear, Bool.and_eq_true, Bool.or_eq_true, beq_iff_eq, bne_iff_ne]
  by_cases secular : cycles.olympiad = 24
  · have last_century := last_olympiad secular
    omega
  · omega

theorem exists_date {cycles : Cycles} (proper : cycles.Proper) : cycles.date.exists? = true := by
  have leap := leap_of_last_day proper
  obtain ⟨-, -, -, dayOfYear, -⟩ := proper
  have within : (5 * cycles.dayOfYear + 2) / 153 = cycles.monthOfYear := rfl
  have day : cycles.dayOfMonth =
      cycles.dayOfYear - (153 * cycles.monthOfYear + 2) / 5 + 1 := rfl
  have some_day : 1 ≤ cycles.dayOfMonth := by omega
  unfold date
  generalize cycles.dayOfMonth = dayOfMonth at *
  generalize cycles.marchYear = marchYear at leap
  generalize cycles.monthOfYear = months at *
  split
  · simp only [exists?, Bool.and_eq_true, decide_eq_true_eq, daysInMonth]
    have spring : ¬(months + 3).toNat = 2 := by omega
    rw [if_neg spring]
    refine ⟨⟨by omega, by omega⟩, ?_⟩
    split <;> omega
  · simp only [exists?, Bool.and_eq_true, decide_eq_true_eq, daysInMonth]
    refine ⟨⟨by omega, by omega⟩, ?_⟩
    split
    · split
      · omega
      · rename_i common
        have earlier : cycles.dayOfYear ≠ 365 := fun last => common (leap last)
        omega
    · split <;> omega

end Cycles

theorem ofDays_eq (days : Int) : ofDays days = (Cycles.ofDays (days + epochOffset)).date := rfl

/-- The day of a count is in the calendar and has that count. -/
theorem toDays_ofDays (days : Int) :
    (ofDays days).exists? = true ∧ (ofDays days).toDays = days := by
  obtain ⟨proper, counted⟩ := Cycles.ofDays_proper (days + epochOffset)
  rw [ofDays_eq]
  refine ⟨Cycles.exists_date proper, ?_⟩
  rw [Cycles.toDays_date proper, counted]
  exact Int.add_sub_cancel days epochOffset

end ProductCatalog.Time.Date
