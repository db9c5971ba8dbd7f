import ProductCatalog.Proofs.Query.WrittenNumber
import ProductCatalog.Proofs.Time.Reading

/-! A proper stamp is read part by part as what it spells. So a text denotes one instant at most,
and the reader finds it. -/

namespace ProductCatalog.Time

open Decimal (digitsValue isDigit takeWhile_digits dropWhile_digits)

theorem readNumber_digits {digits : List Char} (some_digit : digits ≠ [])
    (small : digitsValue digits ≤ maxNumber) (rest : List Char) :
    readNumber digits (digits ++ rest) = .ok (digitsValue digits, rest) := by
  have some_text : digits ++ rest ≠ [] := by simp [some_digit]
  rw [readNumber, if_neg some_text, if_neg some_digit]
  simp only [if_neg (Nat.not_lt.mpr small), List.drop_left]

theorem trimStart_solid {c : Char} (solid : Text.isBlank c = false) (rest : List Char) :
    Text.trimStart (c :: rest) = c :: rest := by
  rw [Text.trimStart, List.dropWhile_cons_of_neg (by simp [solid])]

theorem trimStart_digits {digits : List Char} (some_digit : digits ≠ [])
    (each : ∀ c ∈ digits, isDigit c = true) (rest : List Char) :
    Text.trimStart (digits ++ rest) = digits ++ rest := by
  obtain ⟨first, others, rfl⟩ := List.exists_cons_of_ne_nil some_digit
  exact trimStart_solid (Query.isBlank_of_isDigit (each first List.mem_cons_self)) _

/-- No digit comes next. -/
def Stops (rest : List Char) : Prop :=
  ∀ c ∈ rest.head?, isDigit c = false

theorem isDigit_of_isBlank {c : Char} (blank : Text.isBlank c = true) : isDigit c = false := by
  by_contra digit
  rw [Query.isBlank_of_isDigit (Bool.of_not_eq_false digit)] at blank
  cases blank

theorem trimStart_blanks {blanks : List Char} (blank : IsBlank blanks) (rest : List Char) :
    Text.trimStart (blanks ++ rest) = Text.trimStart rest :=
  List.dropWhile_append_of_pos blank

theorem head_blanks (kept : Char → Prop) {blanks : List Char} (blank : IsBlank blanks)
    (each : ∀ c, Text.isBlank c = true → kept c) {rest : List Char}
    (next : ∀ c ∈ rest.head?, kept c) : ∀ c ∈ (blanks ++ rest).head?, kept c := by
  cases blanks with
  | nil => exact next
  | cons first blanks =>
      rintro c ⟨⟩
      exact each first (blank first List.mem_cons_self)

theorem stops_blanks {blanks : List Char} (blank : IsBlank blanks) {c : Char}
    (mark : isDigit c = false) (rest : List Char) : Stops (blanks ++ c :: rest) :=
  head_blanks (isDigit · = false) blank (fun _ => isDigit_of_isBlank) (by rintro _ ⟨⟩; exact mark)

theorem takeWhile_take_digits {width : Nat} {digits rest : List Char}
    (each : ∀ c ∈ digits, isDigit c = true) (short : digits.length ≤ width) (stops : Stops rest) :
    ((digits ++ rest).take width).takeWhile isDigit = digits := by
  rw [List.take_append, List.take_of_length_le short]
  refine takeWhile_digits each fun c member => ?_
  cases rest with
  | nil => simp at member
  | cons first rest =>
      cases left : width - digits.length with
      | zero =>
          rw [left] at member
          cases member
      | succ left' =>
          rw [left] at member
          exact stops c member

theorem Part.Proper.value_lt {part : Part} (proper : part.Proper) : part.value < 100 :=
  Nat.lt_of_lt_of_le (digitsValue_lt proper.digits.each)
    (Nat.pow_le_pow_right (by decide) proper.short)

theorem readPart_characters {part : Part} (proper : part.Proper) {least greatest : Nat}
    (within : least ≤ part.value ∧ part.value ≤ greatest) {rest : List Char} (stops : Stops rest) :
    readPart 2 least greatest (part.characters ++ rest) = .ok (part.value, rest) := by
  have small : digitsValue part.digits ≤ maxNumber :=
    Nat.le_trans (Nat.le_of_lt proper.value_lt) (by decide)
  have read := readNumber_digits proper.digits.some_digit small rest
  rw [readPart, Part.characters, List.append_assoc, trimStart_blanks proper.blanks,
    trimStart_digits proper.digits.some_digit proper.digits.each,
    takeWhile_take_digits proper.digits.each proper.short stops, read]
  exact if_pos within

theorem readSeparator_blanks {separator : Char} {blanks : List Char} (blank : IsBlank blanks)
    (solid : Text.isBlank separator = false) (rest : List Char) :
    readSeparator separator (blanks ++ separator :: rest) = .ok rest := by
  rw [readSeparator, trimStart_blanks blank, trimStart_solid solid]
  exact if_pos rfl

theorem readYear_characters {blanks digits : List Char} {sign : Decimal.Sign}
    (blank : IsBlank blanks) (numeral : IsNumeral digits)
    (signed : sign = .absent → digits.length ≤ 4) (small : digitsValue digits < 0x80000000)
    {rest : List Char} (stops : Stops rest) :
    readYear (blanks ++ (sign.characters ++ (digits ++ rest))) =
      .ok (if sign.isMinus then -(digitsValue digits : Int) else digitsValue digits, rest) := by
  have read := readNumber_digits numeral.some_digit
    (Nat.le_trans (Nat.le_of_lt small) (by decide)) rest
  rw [readYear, trimStart_blanks blank]
  cases sign with
  | minus =>
      rw [Decimal.Sign.characters, List.singleton_append, trimStart_solid (by decide)]
      simp only [takeWhile_digits numeral.each stops, read, ok_bind]
      rw [if_pos (by omega)]
      rfl
  | plus =>
      rw [Decimal.Sign.characters, List.singleton_append, trimStart_solid (by decide)]
      split
      · rename_i spelled
        exact absurd (List.cons.inj spelled).1 (by decide)
      · rename_i spelled
        obtain ⟨-, rfl⟩ := List.cons.inj spelled
        rw [takeWhile_digits numeral.each stops, read, ok_bind]
        dsimp only
        rw [if_pos (by omega)]
        rfl
      · rename_i unsigned
        exact absurd rfl (unsigned _)
  | absent =>
      have digits_read := takeWhile_take_digits numeral.each (signed rfl) stops
      obtain ⟨first, others, rfl⟩ := List.exists_cons_of_ne_nil numeral.some_digit
      have digit := numeral.each first List.mem_cons_self
      rw [Decimal.Sign.characters, List.nil_append,
        trimStart_digits numeral.some_digit numeral.each]
      dsimp only
      split
      · rename_i spelled
        rw [(List.cons.inj spelled).1] at digit
        cases digit
      · rename_i spelled
        rw [(List.cons.inj spelled).1] at digit
        cases digit
      · rw [digits_read, read]
        rfl

theorem isDigit_dash : isDigit '-' = false := by decide

theorem isDigit_colon : isDigit ':' = false := by decide

theorem readDate_characters {text : DateText} (proper : text.Proper)
    (real : text.date.exists? = true) (near : text.date.inRange = true) {rest : List Char}
    (stops : Stops rest) : readDate (text.characters ++ rest) = .ok (text.date, rest) := by
  obtain ⟨⟨first, last⟩, some_day, within⟩ := (Date.exists_iff _).mp real
  have short := (Date.daysInMonth_bounds text.date.year text.date.month).2
  simp only [Date.inRange, Bool.and_eq_true, decide_eq_true_eq] at near
  have least : -262143 ≤ text.year := near.1
  have greatest : text.year ≤ 262142 := near.2
  have small : digitsValue text.yearDigits < 0x80000000 := by
    unfold DateText.year at least greatest
    split at least
    · rename_i minus
      rw [if_pos minus] at greatest
      omega
    · rename_i plus
      rw [if_neg plus] at greatest
      omega
  have year := readYear_characters proper.yearBlanks proper.yearDigits proper.signed small
    (stops_blanks proper.beforeMonth isDigit_dash
      (text.month.characters ++ (text.beforeDay ++ '-' :: (text.day.characters ++ rest))))
  have month := readPart_characters proper.month ⟨first, last⟩
    (stops_blanks proper.beforeDay isDigit_dash (text.day.characters ++ rest))
  have days : 1 ≤ text.day.value ∧ text.day.value ≤ 31 := ⟨some_day, Nat.le_trans within short⟩
  have day := readPart_characters proper.day days stops
  have dash : Text.isBlank '-' = false := by decide
  simp only [DateText.characters, List.append_assoc, List.cons_append] at year ⊢
  simp only [readDate, year, ok_bind, readSeparator_blanks proper.beforeMonth dash, month,
    readSeparator_blanks proper.beforeDay dash, day]
  rfl

theorem readFraction_characters {text : ClockText} (proper : text.Proper) {rest : List Char}
    (stops : Stops rest) (no_point : rest.head? ≠ some '.') :
    readFraction (text.point ++ rest) =
      .ok (digitsValue ((text.fractionDigits ++ ['0', '0']).take 3), rest) := by
  rw [ClockText.point, ClockText.fractionDigits]
  cases given : text.fraction with
  | none =>
      rw [Option.map_none, Option.getD_none, List.nil_append]
      unfold readFraction
      split
      · exact absurd List.head?_cons no_point
      · rfl
  | some digits =>
      have numeral := proper.fraction digits given
      -- Nine digits are read as a number, which is never too great; the others are passed over.
      have each : ∀ c ∈ digits.take 9, isDigit c = true :=
        fun c member => numeral.each c (List.mem_of_mem_take member)
      have small : digitsValue (digits.take 9) ≤ maxNumber := by
        have bound := Nat.pow_le_pow_right (show 0 < 10 by decide) (List.length_take_le 9 digits)
        exact Nat.le_trans (Nat.le_of_lt (digitsValue_lt each)) (Nat.le_trans bound (by decide))
      have some_digit : digits.take 9 ≠ [] := by simp [numeral.some_digit]
      have read := readNumber_digits some_digit small (digits.drop 9 ++ rest)
      have behind : (digits.drop 9 ++ rest).dropWhile isDigit = rest :=
        dropWhile_digits (fun c member => numeral.each c (List.mem_of_mem_drop member)) stops
      rw [← List.append_assoc, List.take_append_drop] at read
      rw [Option.map_some, Option.getD_some, List.cons_append, readFraction,
        takeWhile_digits numeral.each stops, read, ok_bind]
      dsimp only
      rw [behind]
      rfl

theorem stops_point (text : ClockText) {rest : List Char} (stops : Stops rest) :
    Stops (text.point ++ rest) := by
  rw [ClockText.point]
  cases text.fraction with
  | none => exact stops
  | some digits =>
      rintro c ⟨⟩
      decide

theorem readTimeOfDay_characters {text : ClockText} (proper : text.Proper) {rest : List Char}
    (stops : Stops rest) (no_point : rest.head? ≠ some '.') :
    readTimeOfDay (text.characters ++ rest) = .ok (text.time, rest) := by
  obtain ⟨hours, minutes, seconds⟩ := proper.within
  have hour := readPart_characters proper.hour ⟨Nat.zero_le _, hours⟩
    (stops_blanks proper.beforeMinute isDigit_colon (text.minute.characters ++
      (text.beforeSecond ++ ':' :: (text.second.characters ++ (text.point ++ rest)))))
  have minute := readPart_characters proper.minute ⟨Nat.zero_le _, minutes⟩
    (stops_blanks proper.beforeSecond isDigit_colon
      (text.second.characters ++ (text.point ++ rest)))
  have second := readPart_characters proper.second ⟨Nat.zero_le _, seconds⟩ (stops_point text stops)
  have fraction := readFraction_characters proper stops no_point
  have colon : Text.isBlank ':' = false := by decide
  simp only [ClockText.characters, List.append_assoc, List.cons_append]
  simp only [readTimeOfDay, hour, ok_bind, readSeparator_blanks proper.beforeMinute colon, minute,
    readSeparator_blanks proper.beforeSecond colon]
  rw [second, ok_bind, fraction, ok_bind]
  simp only [ClockText.time, ClockText.seconds]
  split <;> rfl

theorem readTwoDigits_characters {digits : Char → Char → Except Fault Nat} {tens ones : Char}
    {value : Nat} (read : digits tens ones = .ok value) (rest : List Char) :
    readTwoDigits (tens :: ones :: rest) digits = .ok (value, rest) := by
  have some_bytes (c : Char) : 1 ≤ (String.utf8EncodeChar c).length := by
    rw [String.length_utf8EncodeChar]
    exact c.utf8Size_pos
  have enough : ¬(Text.Utf8.encode (tens :: ones :: rest)).length < 2 := by
    have first := some_bytes tens
    have second := some_bytes ones
    simp only [Text.Utf8.encode, List.flatMap_cons, List.length_append]
    omega
  rw [readTwoDigits, if_neg enough, read]
  rfl

theorem hourDigits_numeral {tens ones : Char} (numeral : IsNumeral [tens, ones]) :
    hourDigits tens ones = .ok (digitsValue [tens, ones]) := by
  have first := numeral.each tens (by simp)
  have second := numeral.each ones (by simp)
  rw [hourDigits, first, second]
  rfl

theorem minuteDigits_numeral {tens ones : Char} (numeral : IsNumeral [tens, ones])
    (few : digitsValue [tens, ones] ≤ 59) :
    minuteDigits tens ones = .ok (digitsValue [tens, ones]) := by
  have first := numeral.each tens (by simp)
  have second := numeral.each ones (by simp)
  have small : tens ≤ '5' := by
    change tens.toNat ≤ 53
    have zero : '0'.toNat = 48 := rfl
    simp only [digitsValue, List.foldl_cons, List.foldl_nil, Decimal.digitValue] at few
    omega
  rw [minuteDigits, first, second, if_pos (by rfl), if_pos small]

theorem readZone_characters {zone : Zone} (proper : zone.Proper) (rest : List Char) :
    readZone (zone.characters ++ rest) = .ok (zone.offset, rest) := by
  cases proper with
  | letter universal => rcases universal with rfl | rfl <;> rfl
  | @name letters named =>
      have three : letters.length = 3 := by simpa using congrArg List.length named
      rw [readZone, Zone.characters, List.take_left' three, if_pos named, List.drop_left' three]
      rfl
  | @shift sign hours between minutes signed hourNumeral hoursTwo gap minuteNumeral minutesTwo few =>
      obtain ⟨tens, ones, rfl⟩ := List.length_eq_two.mp hoursTwo
      obtain ⟨minuteTens, minuteOnes, rfl⟩ := List.length_eq_two.mp minutesTwo
      have digit := minuteNumeral.each minuteTens List.mem_cons_self
      have solid : ¬(minuteTens = ':' ∨ Text.isBlank minuteTens = true) := by
        rintro (rfl | blank)
        · cases digit
        · rw [Query.isBlank_of_isDigit digit] at blank
          cases blank
      have behind : (between ++ minuteTens :: minuteOnes :: rest).dropWhile
          (fun c => decide (c = ':' ∨ Text.isBlank c = true)) =
            minuteTens :: minuteOnes :: rest := by
        rw [List.dropWhile_append_of_pos fun c member => decide_eq_true (gap c member),
          List.dropWhile_cons_of_neg (by simpa using solid)]
      have shifted : sign = '+' ∨ sign = '-' ∨ sign = '−' := by simpa using signed
      have unnamed (text : List Char) :
          ((sign :: text).take 3).map Char.toUpper ≠ ['U', 'T', 'C'] := by
        intro named
        have upper : sign.toUpper = 'U' := (List.cons.inj named).1
        rcases shifted with rfl | rfl | rfl <;> exact absurd upper (by decide)
      have not_letter : ¬(sign = 'Z' ∨ sign = 'z') := by
        rcases shifted with rfl | rfl | rfl <;> decide
      simp only [Zone.characters, List.cons_append, List.append_assoc, List.nil_append]
      rw [readZone, if_neg (unnamed _), readOffset,
        if_neg not_letter, if_pos shifted,
        readTwoDigits_characters (hourDigits_numeral hourNumeral), ok_bind]
      dsimp only
      rw [behind, readTwoDigits_characters (minuteDigits_numeral minuteNumeral few), ok_bind]
      rfl

theorem eq_of_toUpper {c : Char} (upper : c.toUpper = 'U') : c = 'U' ∨ c = 'u' := by
  unfold Char.toUpper at upper
  split at upper
  · have shift : 'u'.val + ('A'.val - 'a'.val) = 'U'.val := by decide
    have value : c.val + ('A'.val - 'a'.val) = 'U'.val := by rw [← upper]
    exact Or.inr (Char.ext ((UInt32.add_left_inj _).mp (value.trans shift.symm)))
  · exact Or.inl upper

/-- What a zone begins with belongs neither to the blanks nor to the fraction before it. -/
theorem Zone.Proper.exists_first {zone : Zone} (proper : zone.Proper) :
    ∃ c rest, zone.characters = c :: rest ∧ Text.isBlank c = false ∧ isDigit c = false ∧
      c ≠ '.' := by
  cases proper with
  | letter universal => rcases universal with rfl | rfl <;> exact ⟨_, _, rfl, by decide⟩
  | name named =>
      obtain ⟨c, rest, rfl, upper, -⟩ := List.map_eq_cons_iff.mp named
      refine ⟨c, rest, rfl, ?_⟩
      rcases eq_of_toUpper upper with rfl | rfl <;> decide
  | @shift sign _ _ _ signed =>
      have shifted : sign = '+' ∨ sign = '-' ∨ sign = '−' := by simpa using signed
      rcases shifted with rfl | rfl | rfl <;> exact ⟨_, _, rfl, by decide⟩

namespace Stamp

def afterClock (stamp : Stamp) : List Char :=
  stamp.beforeZone ++ (stamp.zone.characters ++ stamp.after)

theorem characters_eq (stamp : Stamp) : stamp.characters =
    stamp.date.characters ++ stamp.mark :: (stamp.clock.characters ++ stamp.afterClock) := by
  simp only [characters, afterClock, List.append_assoc, List.cons_append]

variable {stamp : Stamp}

theorem Proper.stops_clock (proper : stamp.Proper) : Stops stamp.afterClock := by
  obtain ⟨c, rest, spelled, -, plain, -⟩ := proper.zone.exists_first
  rw [afterClock, spelled]
  exact stops_blanks proper.beforeZone plain _

theorem Proper.no_point (proper : stamp.Proper) : stamp.afterClock.head? ≠ some '.' := by
  obtain ⟨c, rest, spelled, -, -, other⟩ := proper.zone.exists_first
  intro point
  rw [afterClock, spelled] at point
  refine head_blanks (· ≠ '.') proper.beforeZone ?_ ?_ '.' point rfl
  · rintro c blank rfl
    cases blank
  · rintro c ⟨⟩
    exact other

theorem Proper.readDate (proper : stamp.Proper) : readDate stamp.characters =
    .ok (stamp.date.date, stamp.mark :: (stamp.clock.characters ++ stamp.afterClock)) := by
  have stops : Stops (stamp.mark :: (stamp.clock.characters ++ stamp.afterClock)) := by
    rintro c ⟨⟩
    rcases proper.mark with mark | mark | mark <;> rw [mark] <;> decide
  rw [characters_eq]
  exact readDate_characters proper.date proper.real proper.near stops

theorem Proper.readTimeOfDay (proper : stamp.Proper) :
    readTimeOfDay (stamp.clock.characters ++ stamp.afterClock) =
      .ok (stamp.clock.time, stamp.afterClock) :=
  readTimeOfDay_characters proper.clock proper.stops_clock proper.no_point

theorem Proper.readZone (proper : stamp.Proper) :
    readZone (Text.trimStart stamp.afterClock) = .ok (stamp.zone.offset, stamp.after) := by
  obtain ⟨c, rest, spelled, solid, -⟩ := proper.zone.exists_first
  have start : Text.trimStart (stamp.zone.characters ++ stamp.after) =
      stamp.zone.characters ++ stamp.after := by
    rw [spelled, List.cons_append, trimStart_solid solid]
  rw [afterClock, trimStart_blanks proper.beforeZone, start]
  exact readZone_characters proper.zone stamp.after

/-- A proper stamp is read up to what its parts denote together. -/
theorem Proper.readInstant (proper : stamp.Proper) : readInstant stamp.characters =
    resolve stamp.date.date stamp.clock.time stamp.zone.offset := by
  have nothing : Text.trimStart stamp.after = [] :=
    List.dropWhile_eq_nil_iff.mpr proper.after
  rw [Time.readInstant, proper.readDate, ok_bind]
  dsimp only
  rw [if_pos proper.mark, pure_bind, proper.readTimeOfDay, ok_bind]
  dsimp only
  rw [proper.readZone, ok_bind]
  exact if_pos nothing

end Stamp

/-- The fraction is what a time of day has from its first point on. -/
theorem ClockText.Proper.dropWhile_point {text : ClockText} (proper : text.Proper) :
    text.characters.dropWhile (· ≠ '.') = text.point := by
  have blank {blanks : List Char} (given : IsBlank blanks) : ∀ c ∈ blanks, c ≠ '.' := by
    rintro c member rfl
    cases given '.' member
  have part {part : Part} (given : part.Proper) : ∀ c ∈ part.characters, c ≠ '.' := by
    intro c member
    rcases List.mem_append.mp member with space | digit
    · exact blank given.blanks c space
    · rintro rfl
      cases given.digits.each '.' digit
  have before : ∀ c ∈ text.hour.characters ++ text.beforeMinute ++ ':' :: text.minute.characters ++
      text.beforeSecond ++ ':' :: text.second.characters, decide (c ≠ '.') = true := by
    have colon : ':' ≠ '.' := by decide
    simp only [List.forall_mem_append, List.forall_mem_cons, decide_eq_true_eq]
    exact ⟨⟨⟨⟨part proper.hour, blank proper.beforeMinute⟩, colon, part proper.minute⟩,
      blank proper.beforeSecond⟩, colon, part proper.second⟩
  rw [ClockText.characters, List.dropWhile_append_of_pos before, ClockText.point]
  cases text.fraction <;> rfl

theorem ClockText.drop_point (text : ClockText) : text.point.drop 1 = text.fractionDigits := by
  rw [ClockText.point, ClockText.fractionDigits]
  cases text.fraction <;> rfl

/-- Two times of day that are spelled alike and read alike are the same to all digits. -/
theorem ClockText.Proper.eq_of_characters {first second : ClockText} (one : first.Proper)
    (other : second.Proper) (spelled : first.characters = second.characters)
    (read : first.time = second.time) :
    first.seconds = second.seconds ∧ first.fractionDigits = second.fractionDigits := by
  -- Late digits of a fraction are not read, so they are taken from the text.
  have digits : first.fractionDigits = second.fractionDigits := by
    rw [← drop_point, ← drop_point, ← one.dropWhile_point, ← other.dropWhile_point, spelled]
  have milliseconds := first.time_milliseconds
  rw [read, second.time_milliseconds, digits] at milliseconds
  exact ⟨by omega, digits⟩

theorem Stamp.instant_eq_of_characters {first second : Stamp} (one : first.Proper)
    (other : second.Proper) (spelled : first.characters = second.characters) :
    first.instant = second.instant := by
  -- Each reader finds the same part in both texts and leaves the same text to the next reader.
  have dates := one.readDate
  rw [spelled, other.readDate] at dates
  obtain ⟨date, behind⟩ := Prod.mk.inj (Except.ok.inj dates)
  obtain ⟨-, behind⟩ := List.cons.inj behind
  have times := one.readTimeOfDay
  rw [← behind, other.readTimeOfDay] at times
  obtain ⟨time, afterClock⟩ := Prod.mk.inj (Except.ok.inj times)
  have zones := one.readZone
  rw [← afterClock, other.readZone] at zones
  obtain ⟨offset, -⟩ := Prod.mk.inj (Except.ok.inj zones)
  rw [afterClock] at behind
  obtain ⟨seconds, digits⟩ := one.clock.eq_of_characters other.clock
    (List.append_cancel_right behind).symm time.symm
  simp only [Stamp.instant, Stamp.seconds, date, seconds, offset, digits]

theorem Denotes.unique {text : List Char} {instant another : ℚ} (denotes : Denotes text instant)
    (also : Denotes text another) : instant = another := by
  obtain ⟨first, one, rfl, rfl⟩ := denotes
  obtain ⟨second, other, spelled, rfl⟩ := also
  exact Stamp.instant_eq_of_characters one other spelled.symm

/-- The text denotes the instant and no other. -/
def Means (text : List Char) (instant : ℚ) : Prop :=
  ∀ other, Denotes text other ↔ other = instant

theorem Denotes.means {text : List Char} {instant : ℚ} (denotes : Denotes text instant) :
    Means text instant := by
  intro other
  constructor
  · intro also
    exact also.unique denotes
  · rintro rfl
    exact denotes

/-- Of a text that has a meaning, the milliseconds that have passed at that instant are read. -/
theorem readInstant_means {text : List Char} {milliseconds : Int}
    (read : readInstant text = .ok milliseconds) :
    ∃ instant, Means text instant ∧
      IsGreatest { count : ℤ | (count : ℚ) / 1000 ≤ instant } milliseconds := by
  obtain ⟨stamp, proper, spelled, rfl⟩ := readInstant_eq_ok read
  have denotes : Denotes text stamp.instant := ⟨stamp, proper, spelled, rfl⟩
  exact ⟨stamp.instant, denotes.means, proper.isGreatest⟩

end ProductCatalog.Time
