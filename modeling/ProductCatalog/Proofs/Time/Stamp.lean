import Mathlib.Algebra.Order.Field.Rat
import Mathlib.Data.List.Induction
import Mathlib.Order.Bounds.Basic
import Mathlib.Tactic.Linarith
import Mathlib.Tactic.FieldSimp
import Mathlib.Tactic.Ring
import ProductCatalog.Proofs.Decimal.Numeral
import ProductCatalog.Proofs.Time.Calendar
import ProductCatalog.Time.Reading

/-! Stamps: the spellings of instants. A stamp has a date, a time of day and a zone, with blanks
between their numbers and signs. The instant that it denotes is exact: all digits of a fraction
count, the zone is taken off, and a second that was inserted is the first of the next minute. -/

namespace ProductCatalog.Time

open Decimal (digitsValue digitValue isDigit digitsValue_append_singleton)

structure IsNumeral (digits : List Char) : Prop where
  some_digit : digits ≠ []
  each : ∀ c ∈ digits, isDigit c = true

def IsBlank (text : List Char) : Prop :=
  ∀ c ∈ text, Text.isBlank c = true

/-- A number of one or two digits, with blanks before it. -/
structure Part where
  blanks : List Char
  digits : List Char

namespace Part

def characters (part : Part) : List Char :=
  part.blanks ++ part.digits

def value (part : Part) : Nat :=
  digitsValue part.digits

structure Proper (part : Part) : Prop where
  blanks : IsBlank part.blanks
  digits : IsNumeral part.digits
  short : part.digits.length ≤ 2

end Part

/-- A year, a month and a day. Dashes stand before the month and the day. -/
structure DateText where
  yearBlanks : List Char
  sign : Decimal.Sign
  yearDigits : List Char
  beforeMonth : List Char
  month : Part
  beforeDay : List Char
  day : Part

namespace DateText

def characters (text : DateText) : List Char :=
  text.yearBlanks ++ text.sign.characters ++ text.yearDigits ++ text.beforeMonth ++
    '-' :: text.month.characters ++ text.beforeDay ++ '-' :: text.day.characters

def year (text : DateText) : Int :=
  if text.sign.isMinus then -(digitsValue text.yearDigits : Int) else digitsValue text.yearDigits

def date (text : DateText) : Date :=
  ⟨text.year, text.month.value, text.day.value⟩

/-- A year of more than four digits has a sign. -/
structure Proper (text : DateText) : Prop where
  yearBlanks : IsBlank text.yearBlanks
  yearDigits : IsNumeral text.yearDigits
  signed : text.sign = .absent → text.yearDigits.length ≤ 4
  beforeMonth : IsBlank text.beforeMonth
  month : text.month.Proper
  beforeDay : IsBlank text.beforeDay
  day : text.day.Proper

end DateText

/-- An hour, a minute and a second, with colons between them, and the digits behind the point of a
second that has one. -/
structure ClockText where
  hour : Part
  beforeMinute : List Char
  minute : Part
  beforeSecond : List Char
  second : Part
  fraction : Option (List Char)

namespace ClockText

def point (text : ClockText) : List Char :=
  (text.fraction.map ('.' :: ·)).getD []

def characters (text : ClockText) : List Char :=
  text.hour.characters ++ text.beforeMinute ++ ':' :: text.minute.characters ++
    text.beforeSecond ++ ':' :: text.second.characters ++ text.point

def fractionDigits (text : ClockText) : List Char :=
  text.fraction.getD []

def seconds (text : ClockText) : Nat :=
  text.hour.value * 3600 + text.minute.value * 60 + text.second.value

/-- A minute may have a second numbered sixty, which was inserted. -/
structure Proper (text : ClockText) : Prop where
  hour : text.hour.Proper
  beforeMinute : IsBlank text.beforeMinute
  minute : text.minute.Proper
  beforeSecond : IsBlank text.beforeSecond
  second : text.second.Proper
  fraction : ∀ digits ∈ text.fraction, IsNumeral digits
  within : text.hour.value ≤ 23 ∧ text.minute.value ≤ 59 ∧ text.second.value ≤ 60

end ClockText

inductive Zone where
  | letter (c : Char)
  | name (letters : List Char)
  | shift (sign : Char) (hours between minutes : List Char)

namespace Zone

def characters : Zone → List Char
  | letter c => [c]
  | name letters => letters
  | shift sign hours between minutes => sign :: (hours ++ between ++ minutes)

/-- The minutes by which the zone is ahead of universal time. -/
def offset : Zone → Int
  | letter _ | name _ => 0
  | shift sign hours _ minutes =>
    let minutes : Int := digitsValue hours * 60 + digitsValue minutes
    if sign = '+' then minutes else -minutes

inductive Proper : Zone → Prop
  | letter {c} : c = 'Z' ∨ c = 'z' → Proper (letter c)
  | name {letters} : letters.map Char.toUpper = ['U', 'T', 'C'] → Proper (name letters)
  | shift {sign hours between minutes} : sign ∈ ['+', '-', '−'] →
      IsNumeral hours → hours.length = 2 →
      (∀ c ∈ between, c = ':' ∨ Text.isBlank c = true) →
      IsNumeral minutes → minutes.length = 2 → digitsValue minutes ≤ 59 →
      Proper (shift sign hours between minutes)

end Zone

structure Stamp where
  date : DateText
  mark : Char
  clock : ClockText
  beforeZone : List Char
  zone : Zone
  after : List Char

namespace Stamp

def characters (stamp : Stamp) : List Char :=
  stamp.date.characters ++ stamp.mark :: stamp.clock.characters ++ stamp.beforeZone ++
    stamp.zone.characters ++ stamp.after

/-- The whole seconds since the start of 1970 in universal time. -/
def seconds (stamp : Stamp) : Int :=
  stamp.date.date.toDays * 86400 + stamp.clock.seconds - stamp.zone.offset * 60

/-- The seconds since the start of 1970 in universal time, with their fraction. -/
def instant (stamp : Stamp) : ℚ :=
  stamp.seconds + digitsValue stamp.clock.fractionDigits / 10 ^ stamp.clock.fractionDigits.length

/-- The date is one of the calendar, and its zone is less than a day away from universal time. -/
structure Proper (stamp : Stamp) : Prop where
  date : stamp.date.Proper
  real : stamp.date.date.exists? = true
  near : stamp.date.date.inRange = true
  mark : stamp.mark = 'T' ∨ stamp.mark = 't' ∨ stamp.mark = ' '
  clock : stamp.clock.Proper
  beforeZone : IsBlank stamp.beforeZone
  zone : stamp.zone.Proper
  shift : stamp.zone.offset.natAbs < 24 * 60
  after : IsBlank stamp.after

end Stamp

/-- The text denotes the instant, in seconds since the start of 1970 in universal time. -/
def Denotes (text : List Char) (instant : ℚ) : Prop :=
  ∃ stamp : Stamp, stamp.Proper ∧ stamp.characters = text ∧ stamp.instant = instant

/-! Values of digits. -/

theorem digitsValue_append (front back : List Char) :
    digitsValue (front ++ back) = digitsValue front * 10 ^ back.length + digitsValue back := by
  induction back using List.reverseRecOn with
  | nil => simp [digitsValue]
  | append_singleton back last ih =>
      rw [← List.append_assoc, digitsValue_append_singleton, ih, digitsValue_append_singleton,
        List.length_append, List.length_singleton, Nat.pow_succ]
      ring

theorem digitsValue_lt {digits : List Char} (each : ∀ c ∈ digits, isDigit c = true) :
    digitsValue digits < 10 ^ digits.length := by
  induction digits using List.reverseRecOn with
  | nil => exact Nat.one_pos
  | append_singleton digits last ih =>
      have before := ih fun c member => each c (List.mem_append_left _ member)
      have digit := each last (by simp)
      simp only [isDigit, Bool.and_eq_true, decide_eq_true_eq] at digit
      have small : digitValue last ≤ 9 := by
        have below : last.toNat ≤ '9'.toNat := digit.2
        have nine : '9'.toNat = 57 := rfl
        have zero : '0'.toNat = 48 := rfl
        rw [digitValue]
        omega
      rw [digitsValue_append_singleton, List.length_append, List.length_singleton, Nat.pow_succ]
      omega

/-- Digits beyond those of the milliseconds add less than a millisecond. -/
theorem milliseconds_of_fraction {digits : List Char} (each : ∀ c ∈ digits, isDigit c = true) :
    let milliseconds := digitsValue ((digits ++ ['0', '0']).take 3)
    milliseconds * 10 ^ digits.length ≤ 1000 * digitsValue digits ∧
      1000 * digitsValue digits < (milliseconds + 1) * 10 ^ digits.length := by
  intro milliseconds
  by_cases none : digits = []
  · subst none
    decide
  · obtain ⟨more, length⟩ := Nat.exists_eq_add_one.mpr (List.length_pos_of_ne_nil none)
    have whole : digitsValue (digits ++ ['0', '0']) = 100 * digitsValue digits := by
      rw [digitsValue_append]
      exact Nat.mul_comm ..
    have cut := digitsValue_append ((digits ++ ['0', '0']).take 3) ((digits ++ ['0', '0']).drop 3)
    have left : ((digits ++ ['0', '0']).drop 3).length = more := by simp [length]
    have digit : ∀ c ∈ (digits ++ ['0', '0']).drop 3, isDigit c = true := by
      intro c member
      rcases List.mem_append.mp (List.mem_of_mem_drop member) with given | zero
      · exact each c given
      · simp only [List.mem_cons, List.not_mem_nil, or_false, or_self] at zero
        rw [zero]
        decide
    have rest := digitsValue_lt digit
    rw [List.take_append_drop, whole, left] at cut
    rw [left] at rest
    rw [length, Nat.pow_succ]
    change 100 * digitsValue digits = milliseconds * 10 ^ more + _ at cut
    constructor
    · calc milliseconds * (10 ^ more * 10) = milliseconds * 10 ^ more * 10 := by ring
        _ ≤ 1000 * digitsValue digits := by omega
    · calc 1000 * digitsValue digits < (milliseconds * 10 ^ more + 10 ^ more) * 10 := by omega
        _ = (milliseconds + 1) * (10 ^ more * 10) := by ring

theorem isGreatest_milliseconds (seconds : Int) {milliseconds value places : Nat}
    (reached : milliseconds * 10 ^ places ≤ 1000 * value)
    (beyond : 1000 * value < (milliseconds + 1) * 10 ^ places) :
    IsGreatest { count : ℤ | (count : ℚ) / 1000 ≤ seconds + value / 10 ^ places }
      (seconds * 1000 + milliseconds) := by
  have positive : (0 : ℚ) < 10 ^ places := pow_pos (by norm_num) places
  have least : (milliseconds : ℚ) ≤ 1000 * (value / 10 ^ places) := by
    rw [← mul_div_assoc, le_div_iff₀ positive]
    exact_mod_cast reached
  have greatest : 1000 * ((value : ℚ) / 10 ^ places) < milliseconds + 1 := by
    rw [← mul_div_assoc, div_lt_iff₀ positive]
    exact_mod_cast beyond
  constructor
  · change ((seconds * 1000 + milliseconds : ℤ) : ℚ) / 1000 ≤ _
    push_cast
    linarith
  · intro count before
    change (count : ℚ) / 1000 ≤ _ at before
    have bound : (count : ℚ) < ((seconds * 1000 + milliseconds + 1 : ℤ) : ℚ) := by
      push_cast
      linarith
    exact Int.lt_add_one_iff.mp (by exact_mod_cast bound)

/-- The milliseconds that have passed at the instant of a stamp. -/
def Stamp.milliseconds (stamp : Stamp) : Int :=
  stamp.seconds * 1000 + digitsValue ((stamp.clock.fractionDigits ++ ['0', '0']).take 3)

theorem ClockText.Proper.fractionDigits {text : ClockText} (proper : text.Proper) :
    ∀ c ∈ text.fractionDigits, isDigit c = true := by
  cases given : text.fraction with
  | none => simp [ClockText.fractionDigits, given]
  | some digits =>
      rw [ClockText.fractionDigits, given]
      exact (proper.fraction digits given).each

theorem Stamp.Proper.isGreatest {stamp : Stamp} (proper : stamp.Proper) :
    IsGreatest { count : ℤ | (count : ℚ) / 1000 ≤ stamp.instant } stamp.milliseconds := by
  obtain ⟨reached, beyond⟩ := milliseconds_of_fraction proper.clock.fractionDigits
  exact isGreatest_milliseconds stamp.seconds reached beyond

end ProductCatalog.Time
