/-! Days of the Gregorian calendar, continued in both directions, and their count from the first day
of 1970. Years are taken to begin in March, so that a leap day is the last day of its year. -/

namespace ProductCatalog.Time

structure Date where
  year : Int
  month : Nat
  day : Nat
deriving DecidableEq, Repr

def isLeapYear (year : Int) : Bool :=
  year % 4 == 0 && (year % 100 != 0 || year % 400 == 0)

def daysInMonth (year : Int) (month : Nat) : Nat :=
  if month = 2 then if isLeapYear year then 29 else 28
  else if month = 4 ∨ month = 6 ∨ month = 9 ∨ month = 11 then 30
  else 31

namespace Date

def firstYear : Int := -262143
def lastYear : Int := 262142

def exists? (date : Date) : Bool :=
  1 ≤ date.month && date.month ≤ 12 && 1 ≤ date.day && date.day ≤ daysInMonth date.year date.month

def inRange (date : Date) : Bool :=
  firstYear ≤ date.year && date.year ≤ lastYear

/-- Days from the first of March of the year 0 to the first of January of 1970. -/
def epochOffset : Int := 719468

/-- The number of days since the first of January of 1970. -/
def toDays (date : Date) : Int :=
  let year : Int := if date.month ≤ 2 then date.year - 1 else date.year
  let month : Int := if date.month ≤ 2 then date.month + 9 else date.month - 3
  365 * year + year / 4 - year / 100 + year / 400 + (153 * month + 2) / 5 + (date.day - 1) -
    epochOffset

/-- The day that lies `days` days after the first of January of 1970. Cycles of four hundred, one
hundred and four years are split off in turn; the last part of a cycle may be a day longer. -/
def ofDays (days : Int) : Date :=
  let days := days + epochOffset
  let era := days / 146097
  let ofEra := days % 146097
  let century := min (ofEra / 36524) 3
  let ofCentury := ofEra - century * 36524
  let olympiad := ofCentury / 1461
  let ofOlympiad := ofCentury % 1461
  let year := min (ofOlympiad / 365) 3
  let ofYear := ofOlympiad - year * 365
  let month := (5 * ofYear + 2) / 153
  let day := ofYear - (153 * month + 2) / 5 + 1
  let year := 400 * era + 100 * century + 4 * olympiad + year
  if month < 10 then ⟨year, (month + 3).toNat, day.toNat⟩
  else ⟨year + 1, (month - 9).toNat, day.toNat⟩

end Date

end ProductCatalog.Time
