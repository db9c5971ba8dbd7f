import ProductCatalog.Time.Date

/-! Instants as counts of milliseconds from the start of 1970 in universal time, and their text. -/

namespace ProductCatalog.Time

def millisecondsPerDay : Int := 86400000

/-- The digits of a number with zeros before them up to the width. -/
def padded (width number : Nat) : List Char :=
  let digits := Nat.toDigits 10 number
  List.replicate (width - digits.length) '0' ++ digits

/-- A year of four digits stands alone; any other has a sign and at least four digits. -/
def writeYear (year : Int) : List Char :=
  if year < 0 then '-' :: padded 4 year.natAbs
  else if year ≤ 9999 then padded 4 year.natAbs
  else '+' :: padded 4 year.natAbs

def writeDate (date : Date) : List Char :=
  writeYear date.year ++ '-' :: padded 2 date.month ++ '-' :: padded 2 date.day

def writeTimeOfDay (milliseconds : Nat) : List Char :=
  padded 2 (milliseconds / 3600000) ++ ':' :: padded 2 (milliseconds / 60000 % 60) ++
    ':' :: padded 2 (milliseconds / 1000 % 60) ++ '.' :: padded 3 (milliseconds % 1000)

/-- The text of an instant, unless its year is beyond the calendar's range. -/
def writeInstant? (milliseconds : Int) : Option (List Char) :=
  let date := Date.ofDays (milliseconds / millisecondsPerDay)
  if date.inRange then
    let time := writeTimeOfDay (milliseconds % millisecondsPerDay).toNat
    some (writeDate date ++ 'T' :: time ++ ['Z'])
  else none

end ProductCatalog.Time
