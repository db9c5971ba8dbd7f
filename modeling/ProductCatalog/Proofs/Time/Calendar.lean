import Mathlib.Tactic.ByContra
import ProductCatalog.Proofs.Time.Date
import ProductCatalog.Time.Instant

/-! The count of days is that of the calendar: it begins with the first day of 1970 and grows by one
from each day to the next. The days of a range of years are those between two new years. -/

namespace ProductCatalog.Time

namespace Date

/-- The day after. -/
def next (date : Date) : Date :=
  if date.day < daysInMonth date.year date.month then ⟨date.year, date.month, date.day + 1⟩
  else if date.month < 12 then ⟨date.year, date.month + 1, 1⟩
  else ⟨date.year + 1, 1, 1⟩

theorem exists_iff (date : Date) : date.exists? = true ↔
    (1 ≤ date.month ∧ date.month ≤ 12) ∧
      1 ≤ date.day ∧ date.day ≤ daysInMonth date.year date.month := by
  simp only [exists?, Bool.and_eq_true, decide_eq_true_eq, and_assoc]

theorem isLeapYear_iff (year : Int) :
    isLeapYear year = true ↔ year % 4 = 0 ∧ (year % 100 ≠ 0 ∨ year % 400 = 0) := by
  simp only [isLeapYear, Bool.and_eq_true, Bool.or_eq_true, beq_iff_eq, bne_iff_ne]

theorem daysInMonth_february (year : Int) :
    daysInMonth year 2 = if isLeapYear year then 29 else 28 := rfl

theorem daysInMonth_bounds (year : Int) (month : Nat) :
    28 ≤ daysInMonth year month ∧ daysInMonth year month ≤ 31 := by
  unfold daysInMonth
  split
  · split <;> omega
  · split <;> omega

theorem exists_next {date : Date} (real : date.exists? = true) : date.next.exists? = true := by
  have some_day (year : Int) (month : Nat) : 1 ≤ daysInMonth year month :=
    Nat.le_trans (by decide) (daysInMonth_bounds year month).1
  rw [exists_iff] at real ⊢
  unfold next
  split
  · rename_i within
    exact ⟨real.1, Nat.succ_pos _, within⟩
  · split
    · rename_i year_goes_on
      exact ⟨⟨Nat.succ_pos _, year_goes_on⟩, Nat.le_refl 1, some_day _ _⟩
    · exact ⟨⟨Nat.le_refl 1, Nat.le_add_left 1 11⟩, Nat.le_refl 1, some_day _ _⟩

theorem toDays_first : toDays ⟨1970, 1, 1⟩ = 0 := by decide

theorem toDays_of_le {month : Nat} (before_march : month ≤ 2) (year : Int) (day : Nat) :
    toDays ⟨year, month, day⟩ = 365 * (year - 1) + (year - 1) / 4 - (year - 1) / 100 +
      (year - 1) / 400 + (153 * (month + 9) + 2) / 5 + (day - 1) - epochOffset := by
  simp only [toDays, if_pos before_march]

theorem toDays_of_lt {month : Nat} (from_march : 2 < month) (year : Int) (day : Nat) :
    toDays ⟨year, month, day⟩ = 365 * year + year / 4 - year / 100 + year / 400 +
      (153 * (month - 3) + 2) / 5 + (day - 1) - epochOffset := by
  simp only [toDays, if_neg (Nat.not_le.mpr from_march)]

theorem daysInMonth_of_ne {month : Nat} (other : month ≠ 2) (year : Int) :
    daysInMonth year month =
      if month = 4 ∨ month = 6 ∨ month = 9 ∨ month = 11 then 30 else 31 := if_neg other

/-- The last day of a month is followed by the first day of the next. -/
theorem toDays_month_end (year : Int) {month : Nat} (first : 1 ≤ month) (last : month ≤ 11) :
    toDays ⟨year, month + 1, 1⟩ = toDays ⟨year, month, daysInMonth year month⟩ + 1 := by
  rcases Nat.lt_trichotomy month 2 with january | rfl | spring
  · obtain rfl : month = 1 := by omega
    have length : daysInMonth year 1 = 31 := rfl
    rw [toDays_of_le (by decide), toDays_of_le (by decide), length]
    omega
  · -- How long February is decides on where March begins.
    rw [toDays_of_lt (by decide), toDays_of_le (by decide), daysInMonth_february]
    by_cases leap : isLeapYear year = true
    · have divisible := (isLeapYear_iff year).mp leap
      rw [if_pos leap]
      omega
    · have common := mt (isLeapYear_iff year).mpr leap
      rw [if_neg leap]
      omega
  · rw [toDays_of_lt (by omega), toDays_of_lt spring, daysInMonth_of_ne (by omega)]
    split
    · omega
    · have long : month = 3 ∨ month = 5 ∨ month = 7 ∨ month = 8 ∨ month = 10 := by omega
      omega

theorem toDays_year_end (year : Int) :
    toDays ⟨year + 1, 1, 1⟩ = toDays ⟨year, 12, daysInMonth year 12⟩ + 1 := by
  have length : daysInMonth year 12 = 31 := rfl
  rw [toDays_of_le (by decide), toDays_of_lt (by decide), length]
  omega

theorem toDays_next {date : Date} (real : date.exists? = true) :
    date.next.toDays = date.toDays + 1 := by
  obtain ⟨year, month, day⟩ := date
  obtain ⟨⟨first, last⟩, some_day, within⟩ := (exists_iff _).mp real
  dsimp only at first last some_day within
  unfold next
  dsimp only
  split
  · simp only [toDays]
    omega
  · rename_i month_ends
    obtain rfl : day = daysInMonth year month := by omega
    split
    · rename_i year_goes_on
      exact toDays_month_end year first (by omega)
    · obtain rfl : month = 12 := by omega
      exact toDays_year_end year

/-- The days of a year lie between its new year and the next. -/
theorem toDays_bounds {date : Date} (real : date.exists? = true) :
    toDays ⟨date.year, 1, 1⟩ ≤ date.toDays ∧ date.toDays < toDays ⟨date.year + 1, 1, 1⟩ := by
  obtain ⟨year, month, day⟩ := date
  obtain ⟨⟨first, last⟩, some_day, within⟩ := (exists_iff _).mp real
  dsimp only at first last some_day within ⊢
  have short := (daysInMonth_bounds year month).2
  rw [toDays_of_le (by decide : 1 ≤ 2) year, toDays_of_le (by decide : 1 ≤ 2) (year + 1)]
  by_cases winter : month ≤ 2
  · rw [toDays_of_le winter]
    omega
  · have spring : 2 < month := by omega
    rw [toDays_of_lt spring]
    omega

theorem toDays_new_year_mono {early late : Int} (before : early ≤ late) :
    toDays ⟨early, 1, 1⟩ ≤ toDays ⟨late, 1, 1⟩ := by
  rw [toDays_of_le (by decide), toDays_of_le (by decide)]
  omega

theorem le_year_iff {date : Date} (real : date.exists? = true) (year : Int) :
    year ≤ date.year ↔ toDays ⟨year, 1, 1⟩ ≤ date.toDays := by
  obtain ⟨least, greatest⟩ := toDays_bounds real
  constructor
  · intro reached
    exact Int.le_trans (toDays_new_year_mono reached) least
  · intro reached
    by_contra earlier
    have next : date.year + 1 ≤ year := by omega
    have beyond := toDays_new_year_mono next
    omega

end Date

/-- The instants of the years in which instants have texts. -/
def InCalendar (milliseconds : Int) : Prop :=
  Date.toDays ⟨-262143, 1, 1⟩ * millisecondsPerDay ≤ milliseconds ∧
    milliseconds < Date.toDays ⟨262143, 1, 1⟩ * millisecondsPerDay

instance (milliseconds : Int) : Decidable (InCalendar milliseconds) :=
  inferInstanceAs (Decidable (_ ∧ _))

theorem inRange_ofDays_iff (days : Int) : (Date.ofDays days).inRange = true ↔
    Date.toDays ⟨-262143, 1, 1⟩ ≤ days ∧ days < Date.toDays ⟨262143, 1, 1⟩ := by
  obtain ⟨real, counted⟩ := Date.toDays_ofDays days
  have first := Date.le_year_iff real Date.firstYear
  have later := Date.le_year_iff real (Date.lastYear + 1)
  rw [counted] at first later
  rw [Date.inRange, Bool.and_eq_true, decide_eq_true_eq, decide_eq_true_eq, first]
  refine and_congr_right fun _ => ?_
  rw [← Int.not_lt, Int.lt_iff_add_one_le, later, Int.not_le]
  rfl

/-- An instant has a text exactly if it lies in the calendar. -/
theorem writeInstant_isSome_iff (milliseconds : Int) :
    (writeInstant? milliseconds).isSome = true ↔ InCalendar milliseconds := by
  have written : (writeInstant? milliseconds).isSome = true ↔
      (Date.ofDays (milliseconds / millisecondsPerDay)).inRange = true := by
    unfold writeInstant?
    dsimp only
    split <;> simp [*]
  rw [written, inRange_ofDays_iff, InCalendar, millisecondsPerDay]
  omega

end ProductCatalog.Time
