import ProductCatalog.Proofs.Time.Denotation

/-! Instants that were written: their text is a stamp of them, in all years of the calendar, and is
read back as it was. -/

namespace ProductCatalog.Time

open Decimal (isDigit digitsValue)

theorem digitsValue_zeros (count : Nat) (digits : List Char) :
    digitsValue (List.replicate count '0' ++ digits) = digitsValue digits := by
  induction count with
  | zero => rfl
  | succ count ih => exact ih

theorem digitsValue_padded (width number : Nat) : digitsValue (padded width number) = number := by
  rw [padded, digitsValue_zeros, Query.digitsValue_toDigits]

theorem length_padded {width number : Nat} (positive : 0 < width) (small : number < 10 ^ width) :
    (padded width number).length = width := by
  have fits := (Nat.length_toDigits_le_iff (by decide) positive).mpr small
  simp only [padded, List.length_append, List.length_replicate]
  omega

theorem isNumeral_padded (width number : Nat) : IsNumeral (padded width number) where
  some_digit := by simp [padded, Nat.toDigits_ne_nil]
  each := by
    intro c member
    rcases List.mem_append.mp member with zero | digit
    · rw [List.eq_of_mem_replicate zero]
      decide
    · exact Query.isDigit_of_mem_toDigits digit

theorem isBlank_nil : IsBlank [] := List.forall_mem_nil _

namespace Part

def written (number : Nat) : Part :=
  ⟨[], padded 2 number⟩

theorem written_proper {number : Nat} (small : number < 100) : (written number).Proper where
  blanks := isBlank_nil
  digits := isNumeral_padded 2 number
  short := Nat.le_of_eq (length_padded (by decide) small)

@[simp] theorem written_value (number : Nat) : (written number).value = number :=
  digitsValue_padded 2 number

end Part

namespace DateText

def writtenSign (year : Int) : Decimal.Sign :=
  if year < 0 then .minus else if year ≤ 9999 then .absent else .plus

theorem isMinus_writtenSign (year : Int) : (writtenSign year).isMinus = decide (year < 0) := by
  unfold writtenSign
  split
  · rename_i negative
    exact (decide_eq_true negative).symm
  · rename_i positive
    rw [decide_eq_false positive]
    split <;> rfl

def written (date : Date) : DateText :=
  ⟨[], writtenSign date.year, padded 4 date.year.natAbs, [], .written date.month, [],
    .written date.day⟩

theorem written_characters (date : Date) : (written date).characters = writeDate date := by
  have year : (writtenSign date.year).characters ++ padded 4 date.year.natAbs =
      writeYear date.year := by
    unfold writtenSign writeYear
    split
    · rfl
    · split <;> rfl
  simp only [characters, written, List.nil_append, List.append_nil, year]
  rfl

theorem written_date (date : Date) : (written date).date = date := by
  have year : (written date).year = date.year := by
    simp only [DateText.year, written, isMinus_writtenSign, digitsValue_padded, decide_eq_true_eq]
    split <;> omega
  rw [DateText.date, year]
  simp only [written, Part.written_value]

theorem written_proper {date : Date} (real : date.exists? = true) : (written date).Proper := by
  obtain ⟨⟨-, last⟩, -, within⟩ := (Date.exists_iff _).mp real
  have short := (Date.daysInMonth_bounds date.year date.month).2
  refine ⟨isBlank_nil, isNumeral_padded 4 _, fun unsigned => ?_, isBlank_nil,
    Part.written_proper (by omega), isBlank_nil, Part.written_proper (by omega)⟩
  have few : date.year.natAbs < 10 ^ 4 := by
    simp only [written, writtenSign] at unsigned
    split at unsigned
    · cases unsigned
    · split at unsigned
      · omega
      · cases unsigned
  exact Nat.le_of_eq (length_padded (by decide) few)

end DateText

namespace ClockText

def written (milliseconds : Nat) : ClockText :=
  ⟨.written (milliseconds / 3600000), [], .written (milliseconds / 60000 % 60), [],
    .written (milliseconds / 1000 % 60), some (padded 3 (milliseconds % 1000))⟩

theorem written_characters (milliseconds : Nat) :
    (written milliseconds).characters = writeTimeOfDay milliseconds := by
  simp only [characters, written, point, Part.characters, Part.written, writeTimeOfDay,
    List.nil_append, List.append_nil, Option.map_some, Option.getD_some]

theorem written_seconds (milliseconds : Nat) :
    (written milliseconds).seconds = milliseconds / 1000 := by
  simp only [seconds, written, Part.written_value]
  omega

theorem written_proper {milliseconds : Nat} (small : milliseconds < 86400000) :
    (written milliseconds).Proper where
  hour := Part.written_proper (by omega)
  beforeMinute := isBlank_nil
  minute := Part.written_proper (by omega)
  beforeSecond := isBlank_nil
  second := Part.written_proper (by omega)
  fraction := by
    rintro digits ⟨⟩
    exact isNumeral_padded 3 _
  within := by
    simp only [written, Part.written_value]
    omega

theorem length_thousandths (milliseconds : Nat) :
    (padded 3 (milliseconds % 1000)).length = 3 :=
  length_padded (by decide) (Nat.mod_lt milliseconds (by decide))

theorem written_time (milliseconds : Nat) :
    (written milliseconds).time = ⟨milliseconds / 1000, milliseconds % 1000⟩ := by
  have no_leap : ¬(written milliseconds).second.value = 60 := by
    simp only [written, Part.written_value]
    omega
  have three := length_thousandths milliseconds
  rw [time, if_neg no_leap, written_seconds]
  simp only [fractionDigits, written, Option.getD_some]
  rw [List.take_left' three, digitsValue_padded]

end ClockText

/-- The stamp in universal time. -/
def Stamp.written (date : Date) (milliseconds : Nat) : Stamp :=
  ⟨.written date, 'T', .written milliseconds, [], .letter 'Z', []⟩

namespace Stamp

variable {date : Date} {milliseconds : Nat}

theorem written_characters (date : Date) (milliseconds : Nat) :
    (written date milliseconds).characters =
      writeDate date ++ 'T' :: writeTimeOfDay milliseconds ++ ['Z'] := by
  simp only [characters, written, DateText.written_characters, ClockText.written_characters,
    Zone.characters, List.append_nil]

theorem written_proper (real : date.exists? = true) (near : date.inRange = true)
    (small : milliseconds < 86400000) : (written date milliseconds).Proper where
  date := DateText.written_proper real
  real := by rwa [written, DateText.written_date]
  near := by rwa [written, DateText.written_date]
  mark := Or.inl rfl
  clock := ClockText.written_proper small
  beforeZone := isBlank_nil
  zone := .letter (Or.inl rfl)
  shift := Nat.lt_of_le_of_lt (Nat.le_of_eq rfl) (by decide : 0 < 24 * 60)
  after := isBlank_nil

theorem written_instant (date : Date) (milliseconds : Nat) :
    (written date milliseconds).instant =
      ((date.toDays * millisecondsPerDay + milliseconds : Int) : ℚ) / 1000 := by
  have three := ClockText.length_thousandths milliseconds
  have whole : milliseconds / 1000 * 1000 + milliseconds % 1000 = milliseconds :=
    Nat.div_add_mod' milliseconds 1000
  simp only [instant, Stamp.seconds, written, DateText.written_date, ClockText.written_seconds,
    ClockText.fractionDigits]
  rw [ClockText.written, Option.getD_some, three, digitsValue_padded, millisecondsPerDay,
    Zone.offset]
  generalize milliseconds / 1000 = second at *
  generalize milliseconds % 1000 = thousandth at *
  have exact_whole : (second : ℚ) * 1000 + thousandth = milliseconds := by exact_mod_cast whole
  push_cast
  linarith

end Stamp

/-- The text of an instant is a proper stamp in universal time. -/
theorem written_stamp {milliseconds : Int} {text : List Char}
    (written : writeInstant? milliseconds = some text) :
    ∃ date ofDay, (Stamp.written date ofDay).Proper ∧
      (Stamp.written date ofDay).characters = text ∧ Date.ofDays date.toDays = date ∧
      ofDay < 86400000 ∧ date.toDays * millisecondsPerDay + ofDay = milliseconds := by
  simp only [writeInstant?, Option.ite_none_right_eq_some, Option.some.injEq] at written
  obtain ⟨near, spelled⟩ := written
  obtain ⟨real, days⟩ := Date.toDays_ofDays (milliseconds / millisecondsPerDay)
  have rest := Int.emod_nonneg milliseconds (b := millisecondsPerDay) (by decide)
  have limit := Int.emod_lt_of_pos milliseconds (b := millisecondsPerDay) (by decide)
  have whole := Int.mul_ediv_add_emod milliseconds millisecondsPerDay
  have small : (milliseconds % millisecondsPerDay).toNat < 86400000 := by
    rw [millisecondsPerDay] at limit ⊢
    omega
  refine ⟨_, _, Stamp.written_proper real near small, ?_, by rw [days], small, ?_⟩
  · rw [Stamp.written_characters, spelled]
  · rw [days, Int.toNat_of_nonneg rest, Int.mul_comm]
    exact whole

/-- The text of an instant denotes it to the millisecond. -/
theorem written_denotes {milliseconds : Int} {text : List Char}
    (written : writeInstant? milliseconds = some text) :
    Denotes text ((milliseconds : ℚ) / 1000) := by
  obtain ⟨date, ofDay, proper, spelled, -, -, rfl⟩ := written_stamp written
  exact ⟨_, proper, spelled, Stamp.written_instant date ofDay⟩

theorem resolve_universal {date : Date} (real : date.exists? = true) (near : date.inRange = true)
    (same : Date.ofDays date.toDays = date) {milliseconds : Nat} (small : milliseconds < 86400000) :
    resolve date ⟨milliseconds / 1000, milliseconds % 1000⟩ 0 =
      .ok (date.toDays * millisecondsPerDay + milliseconds) := by
  have day : (date.toDays * 86400 + (milliseconds / 1000 : Nat) - 0 * 60) / 86400 =
      date.toDays := by omega
  have whole : (date.toDays * 86400 + (milliseconds / 1000 : Nat) - 0 * 60) * 1000 +
      (milliseconds % 1000 : Nat) = date.toDays * millisecondsPerDay + milliseconds := by
    rw [millisecondsPerDay]
    omega
  simp only [resolve, day, same, real, near, if_true, whole]
  rfl

/-- An instant is read back from its text. -/
theorem readInstant_written {milliseconds : Int} {text : List Char}
    (written : writeInstant? milliseconds = some text) : readInstant text = .ok milliseconds := by
  obtain ⟨date, ofDay, proper, rfl, same, small, rfl⟩ := written_stamp written
  have real := proper.real
  have near := proper.near
  simp only [Stamp.written, DateText.written_date] at real near
  rw [proper.readInstant]
  simp only [Stamp.written, DateText.written_date, ClockText.written_time]
  exact resolve_universal real near same small

end ProductCatalog.Time
