import ProductCatalog.Proofs.Outcome
import ProductCatalog.Proofs.Time.Stamp

/-! Reading instants is finding their stamps. What is read is spelled by a stamp, part by part; and
a part that stands before something that cannot belong to it is read as what it spells. -/

namespace ProductCatalog.Time

open Decimal (digitsValue isDigit takeWhile_digits)

/-! What stands behind a part that was read, and the part. -/

theorem exists_blanks (text : List Char) :
    ∃ blanks, IsBlank blanks ∧ text = blanks ++ Text.trimStart text := by
  refine ⟨text.takeWhile Text.isBlank, fun c member => ?_, List.takeWhile_append_dropWhile.symm⟩
  exact List.mem_takeWhile_imp member

theorem isBlank_of_trimStart {text : List Char} (nothing : Text.trimStart text = []) :
    IsBlank text := by
  obtain ⟨blanks, blank, whole⟩ := exists_blanks text
  rw [nothing, List.append_nil] at whole
  rwa [whole]

theorem readNumber_eq_ok {digits text rest : List Char} {value : Nat}
    (read : readNumber digits text = .ok (value, rest)) :
    digits ≠ [] ∧ digitsValue digits = value ∧ text.drop digits.length = rest := by
  unfold readNumber at read
  split at read
  · cases read
  split at read
  · cases read
  · rename_i some_digit
    dsimp only at read
    split at read
    · cases read
    · cases read
      exact ⟨some_digit, rfl, rfl⟩

theorem readNumber_start {digits text rest : List Char} {value : Nat}
    (start : digits <+: text) (each : ∀ c ∈ digits, isDigit c = true)
    (read : readNumber digits text = .ok (value, rest)) :
    IsNumeral digits ∧ digitsValue digits = value ∧ text = digits ++ rest := by
  obtain ⟨some_digit, same, rfl⟩ := readNumber_eq_ok read
  exact ⟨⟨some_digit, each⟩, same, (List.prefix_iff_eq_append.mp start).symm⟩

theorem isDigit_of_mem_takeWhile {text : List Char} :
    ∀ c ∈ text.takeWhile isDigit, isDigit c = true :=
  fun _ member => List.mem_takeWhile_imp member

theorem takeWhile_take_start (width : Nat) (text : List Char) :
    (text.take width).takeWhile isDigit <+: text :=
  (List.takeWhile_prefix _).trans (List.take_prefix width text)

theorem length_takeWhile_take (width : Nat) (text : List Char) :
    ((text.take width).takeWhile isDigit).length ≤ width :=
  Nat.le_trans (List.takeWhile_prefix _).length_le (List.length_take_le width text)

theorem readPart_eq_ok {least greatest value : Nat} {text rest : List Char}
    (read : readPart 2 least greatest text = .ok (value, rest)) :
    ∃ part : Part, part.Proper ∧ text = part.characters ++ rest ∧ part.value = value ∧
      least ≤ value ∧ value ≤ greatest := by
  obtain ⟨⟨number, behind⟩, found, checked⟩ := bind_eq_ok read
  dsimp only at checked
  split at checked
  · rename_i within
    cases checked
    obtain ⟨blanks, blank, whole⟩ := exists_blanks text
    obtain ⟨numeral, same, spelled⟩ := readNumber_start (takeWhile_take_start 2 _)
      isDigit_of_mem_takeWhile found
    refine ⟨⟨blanks, _⟩, ⟨blank, numeral, length_takeWhile_take 2 _⟩, ?_, same, within⟩
    rw [Part.characters, List.append_assoc, ← spelled]
    exact whole
  · cases checked

theorem readSeparator_eq_ok {separator : Char} {text rest : List Char}
    (read : readSeparator separator text = .ok rest) :
    ∃ blanks, IsBlank blanks ∧ text = blanks ++ separator :: rest := by
  obtain ⟨blanks, blank, whole⟩ := exists_blanks text
  unfold readSeparator at read
  split at read
  · cases read
  · rename_i c behind trimmed
    split at read
    · rename_i same
      cases read
      rw [trimmed, same] at whole
      exact ⟨blanks, blank, whole⟩
    · cases read

/-- The number behind a sign, for a year between the bounds that a signed year has. -/
theorem readSigned_eq_ok (signed : Nat → Int) {behind rest : List Char} {year : Int}
    (read : (readNumber (behind.takeWhile isDigit) behind >>= fun found =>
      (if -0x80000000 ≤ signed found.1 ∧ signed found.1 < 0x80000000 then
        Except.ok (signed found.1) else .error .outOfRange) >>= fun year =>
      pure (year, found.2)) = .ok (year, rest)) :
    ∃ digits, IsNumeral digits ∧ behind = digits ++ rest ∧ year = signed (digitsValue digits) := by
  obtain ⟨⟨number, others⟩, found, bounded⟩ := bind_eq_ok read
  obtain ⟨checked, inside, same⟩ := bind_eq_ok bounded
  cases same
  obtain ⟨numeral, rfl, spelled⟩ := readNumber_start (List.takeWhile_prefix _)
    isDigit_of_mem_takeWhile found
  refine ⟨_, numeral, spelled, ?_⟩
  dsimp only at inside
  split at inside
  · exact (Except.ok.inj inside).symm
  · cases inside

theorem readYear_eq_ok {text rest : List Char} {year : Int}
    (read : readYear text = .ok (year, rest)) :
    ∃ blanks sign digits, IsBlank blanks ∧ IsNumeral digits ∧
      (sign = Decimal.Sign.absent → digits.length ≤ 4) ∧
      text = blanks ++ sign.characters ++ digits ++ rest ∧
      year = if sign.isMinus then -(digitsValue digits : Int) else digitsValue digits := by
  obtain ⟨blanks, blank, whole⟩ := exists_blanks text
  unfold readYear at read
  dsimp only at read
  split at read
  · rename_i behind trimmed
    obtain ⟨digits, numeral, rfl, rfl⟩ := readSigned_eq_ok (fun value => -(value : Int)) read
    refine ⟨blanks, .minus, digits, blank, numeral, by rintro ⟨⟩, ?_, rfl⟩
    rw [trimmed] at whole
    simpa [Decimal.Sign.characters] using whole
  · rename_i behind trimmed
    obtain ⟨digits, numeral, rfl, rfl⟩ := readSigned_eq_ok (fun value => (value : Int)) read
    refine ⟨blanks, .plus, digits, blank, numeral, by rintro ⟨⟩, ?_, rfl⟩
    rw [trimmed] at whole
    simpa [Decimal.Sign.characters] using whole
  · obtain ⟨⟨number, others⟩, found, same⟩ := bind_eq_ok read
    cases same
    obtain ⟨numeral, rfl, spelled⟩ := readNumber_start (takeWhile_take_start 4 _)
      isDigit_of_mem_takeWhile found
    refine ⟨blanks, .absent, _, blank, numeral, fun _ => length_takeWhile_take 4 _, ?_, rfl⟩
    rw [Decimal.Sign.characters, List.append_nil, List.append_assoc, ← spelled]
    exact whole

theorem readDate_eq_ok {text rest : List Char} {date : Date}
    (read : readDate text = .ok (date, rest)) :
    ∃ parts : DateText, parts.Proper ∧ text = parts.characters ++ rest ∧ parts.date = date := by
  obtain ⟨⟨year, afterYear⟩, yearRead, more⟩ := bind_eq_ok read
  obtain ⟨atMonth, monthMark, more⟩ := bind_eq_ok more
  obtain ⟨⟨month, afterMonth⟩, monthRead, more⟩ := bind_eq_ok more
  obtain ⟨atDay, dayMark, more⟩ := bind_eq_ok more
  obtain ⟨⟨day, afterDay⟩, dayRead, same⟩ := bind_eq_ok more
  cases same
  obtain ⟨yearBlanks, sign, yearDigits, blank, numeral, signed, rfl, rfl⟩ := readYear_eq_ok yearRead
  obtain ⟨beforeMonth, monthBlank, spelled⟩ := readSeparator_eq_ok monthMark
  obtain ⟨monthPart, monthProper, rfl, rfl, _⟩ := readPart_eq_ok monthRead
  obtain ⟨beforeDay, dayBlank, rfl⟩ := readSeparator_eq_ok dayMark
  obtain ⟨dayPart, dayProper, rfl, rfl, _⟩ := readPart_eq_ok dayRead
  refine ⟨⟨yearBlanks, sign, yearDigits, beforeMonth, monthPart, beforeDay, dayPart⟩,
    ⟨blank, numeral, signed, monthBlank, monthProper, dayBlank, dayProper⟩, ?_, rfl⟩
  simp [DateText.characters, spelled]

theorem dropWhile_drop {text : List Char} {count : Nat}
    (within : count ≤ (text.takeWhile isDigit).length) :
    (text.drop count).dropWhile isDigit = text.dropWhile isDigit := by
  induction text generalizing count with
  | nil => simp
  | cons c rest ih =>
      cases count with
      | zero => rfl
      | succ count =>
          by_cases digit : isDigit c = true
          · rw [List.takeWhile_cons_of_pos digit, List.length_cons] at within
            rw [List.drop_succ_cons, List.dropWhile_cons_of_pos digit]
            exact ih (Nat.le_of_succ_le_succ within)
          · rw [List.takeWhile_cons_of_neg digit] at within
            exact absurd within (Nat.not_succ_le_zero count)

theorem readFraction_eq_ok {text rest : List Char} {milliseconds : Nat}
    (read : readFraction text = .ok (milliseconds, rest)) :
    ∃ fraction : Option (List Char), (∀ digits ∈ fraction, IsNumeral digits) ∧
      text = (fraction.map ('.' :: ·)).getD [] ++ rest ∧
      milliseconds = digitsValue ((fraction.getD [] ++ ['0', '0']).take 3) := by
  unfold readFraction at read
  split at read
  · rename_i behind
    obtain ⟨⟨number, others⟩, found, same⟩ := bind_eq_ok read
    cases same
    obtain ⟨some_digit, -, rfl⟩ := readNumber_eq_ok found
    refine ⟨some (behind.takeWhile isDigit), ?_, ?_, rfl⟩
    · rintro digits ⟨⟩
      refine ⟨?_, isDigit_of_mem_takeWhile⟩
      rintro nothing
      exact some_digit (by rw [nothing, List.take_nil])
    · rw [dropWhile_drop (List.length_take_le' 9 _)]
      exact congrArg ('.' :: ·) List.takeWhile_append_dropWhile.symm
  · cases read
    exact ⟨none, by simp, rfl, rfl⟩

/-- A second that was inserted is kept as the one before it with more milliseconds. -/
def ClockText.time (text : ClockText) : TimeOfDay :=
  let milliseconds := digitsValue ((text.fractionDigits ++ ['0', '0']).take 3)
  if text.second.value = 60 then
    ⟨text.hour.value * 3600 + text.minute.value * 60 + 59, milliseconds + 1000⟩
  else ⟨text.seconds, milliseconds⟩

theorem readTimeOfDay_eq_ok {text rest : List Char} {time : TimeOfDay}
    (read : readTimeOfDay text = .ok (time, rest)) :
    ∃ parts : ClockText, parts.Proper ∧ text = parts.characters ++ rest ∧ parts.time = time := by
  obtain ⟨⟨hour, afterHour⟩, hourRead, more⟩ := bind_eq_ok read
  obtain ⟨atMinute, minuteMark, more⟩ := bind_eq_ok more
  obtain ⟨⟨minute, afterMinute⟩, minuteRead, more⟩ := bind_eq_ok more
  obtain ⟨atSecond, secondMark, more⟩ := bind_eq_ok more
  obtain ⟨⟨second, afterSecond⟩, secondRead, more⟩ := bind_eq_ok more
  obtain ⟨⟨milliseconds, afterFraction⟩, fractionRead, same⟩ := bind_eq_ok more
  cases same
  obtain ⟨hourPart, hourProper, rfl, rfl, _, hours⟩ := readPart_eq_ok hourRead
  obtain ⟨beforeMinute, minuteBlank, rfl⟩ := readSeparator_eq_ok minuteMark
  obtain ⟨minutePart, minuteProper, rfl, rfl, _, minutes⟩ := readPart_eq_ok minuteRead
  obtain ⟨beforeSecond, secondBlank, rfl⟩ := readSeparator_eq_ok secondMark
  obtain ⟨secondPart, secondProper, rfl, rfl, _, seconds⟩ := readPart_eq_ok secondRead
  obtain ⟨fraction, numerals, rfl, rfl⟩ := readFraction_eq_ok fractionRead
  refine ⟨⟨hourPart, beforeMinute, minutePart, beforeSecond, secondPart, fraction⟩,
    ⟨hourProper, minuteBlank, minuteProper, secondBlank, secondProper, numerals,
      hours, minutes, seconds⟩, ?_, ?_⟩
  · simp [ClockText.characters, ClockText.point]
  · simp only [ClockText.time, ClockText.fractionDigits, ClockText.seconds]
    split <;> rfl

theorem readTwoDigits_eq_ok {digits : Char → Char → Except Fault Nat} {text rest : List Char}
    {value : Nat} (read : readTwoDigits text digits = .ok (value, rest)) :
    ∃ tens ones, text = tens :: ones :: rest ∧ digits tens ones = .ok value := by
  unfold readTwoDigits at read
  split at read
  · cases read
  split at read
  · obtain ⟨number, found, same⟩ := map_eq_ok read
    cases same
    exact ⟨_, _, rfl, found⟩
  · cases read

theorem isNumeral_two {tens ones : Char} (digits : (isDigit tens && isDigit ones) = true) :
    IsNumeral [tens, ones] := by
  obtain ⟨first, second⟩ := Bool.and_eq_true_iff.mp digits
  exact ⟨List.cons_ne_nil _ _, by simp [first, second]⟩

theorem hourDigits_eq_ok {tens ones : Char} {value : Nat}
    (read : hourDigits tens ones = .ok value) :
    IsNumeral [tens, ones] ∧ digitsValue [tens, ones] = value := by
  unfold hourDigits at read
  split at read
  · rename_i digits
    cases read
    exact ⟨isNumeral_two digits, rfl⟩
  · cases read

theorem minuteDigits_eq_ok {tens ones : Char} {value : Nat}
    (read : minuteDigits tens ones = .ok value) :
    IsNumeral [tens, ones] ∧ digitsValue [tens, ones] = value ∧ value ≤ 59 := by
  unfold minuteDigits at read
  split at read
  · rename_i digits
    split at read
    · rename_i few
      cases read
      refine ⟨isNumeral_two digits, rfl, ?_⟩
      have tens_small : tens.toNat ≤ 53 := few
      have ones_small : ones.toNat ≤ 57 := by
        have digit := (isNumeral_two digits).each ones (by simp)
        exact (Bool.and_eq_true_iff.mp digit |>.2 |> of_decide_eq_true)
      have zero : '0'.toNat = 48 := rfl
      simp only [digitsValue, List.foldl_cons, List.foldl_nil, Decimal.digitValue]
      omega
    · cases read
  · cases read

theorem readZone_eq_ok {text rest : List Char} {offset : Int}
    (read : readZone text = .ok (offset, rest)) :
    ∃ zone : Zone, zone.Proper ∧ text = zone.characters ++ rest ∧ zone.offset = offset := by
  unfold readZone at read
  split at read
  · rename_i named
    cases read
    exact ⟨.name (text.take 3), .name named, (List.take_append_drop 3 text).symm, rfl⟩
  cases text with
  | nil => cases read
  | cons sign behind =>
      unfold readOffset at read
      dsimp only at read
      split at read
      · rename_i universal
        cases read
        exact ⟨.letter sign, .letter universal, rfl, rfl⟩
      split at read
      · rename_i signed
        obtain ⟨⟨hours, afterHours⟩, hoursRead, more⟩ := bind_eq_ok read
        obtain ⟨⟨minutes, afterMinutes⟩, minutesRead, same⟩ := bind_eq_ok more
        cases same
        obtain ⟨tens, ones, rfl, hourRead⟩ := readTwoDigits_eq_ok hoursRead
        obtain ⟨minuteTens, minuteOnes, spelled, minuteRead⟩ := readTwoDigits_eq_ok minutesRead
        obtain ⟨hourNumeral, rfl⟩ := hourDigits_eq_ok hourRead
        obtain ⟨minuteNumeral, rfl, bound⟩ := minuteDigits_eq_ok minuteRead
        let inGap (c : Char) : Bool := c = ':' ∨ Text.isBlank c
        have gap : ∀ c ∈ afterHours.takeWhile inGap, c = ':' ∨ Text.isBlank c = true := by
          intro c member
          have inside : inGap c = true := List.mem_takeWhile_imp member
          exact of_decide_eq_true inside
        have whole : afterHours.takeWhile inGap ++ minuteTens :: minuteOnes :: afterMinutes =
            afterHours := by
          rw [← spelled]
          exact List.takeWhile_append_dropWhile
        refine ⟨.shift sign [tens, ones] _ [minuteTens, minuteOnes],
          .shift (by simpa using signed) hourNumeral rfl gap minuteNumeral rfl bound, ?_, rfl⟩
        simp [Zone.characters, whole]
      · cases read

theorem resolve_eq_ok {date : Date} {time : TimeOfDay} {offset milliseconds : Int}
    (resolved : resolve date time offset = .ok milliseconds) :
    date.exists? = true ∧ date.inRange = true ∧ offset.natAbs < 24 * 60 ∧
      milliseconds =
        (date.toDays * 86400 + time.second - offset * 60) * 1000 + time.millisecond := by
  unfold resolve at resolved
  dsimp only at resolved
  split at resolved
  · cases resolved
  · rename_i sensible
    split at resolved
    · cases resolved
      simp only [Bool.or_eq_true, Bool.not_eq_true', not_or, Bool.not_eq_false,
        decide_eq_true_eq, Nat.not_le] at sensible
      exact ⟨sensible.1.1, sensible.1.2, sensible.2, rfl⟩
    · cases resolved

theorem ClockText.time_milliseconds (text : ClockText) :
    text.time.second * 1000 + text.time.millisecond =
      text.seconds * 1000 + digitsValue ((text.fractionDigits ++ ['0', '0']).take 3) := by
  unfold ClockText.time
  dsimp only
  split
  · rename_i inserted
    simp only [ClockText.seconds, inserted]
    omega
  · rfl

/-- A text that is read as an instant is a proper stamp of that instant. -/
theorem readInstant_eq_ok {text : List Char} {milliseconds : Int}
    (read : readInstant text = .ok milliseconds) :
    ∃ stamp : Stamp, stamp.Proper ∧ stamp.characters = text ∧
      stamp.milliseconds = milliseconds := by
  obtain ⟨⟨date, afterDate⟩, dateRead, marked⟩ := bind_eq_ok read
  obtain ⟨dateText, dateProper, rfl, rfl⟩ := readDate_eq_ok dateRead
  dsimp only at marked
  cases afterDate with
  | nil => cases marked
  | cons mark behind =>
      dsimp only at marked
      split at marked
      · rename_i isMark
        rw [pure_bind] at marked
        obtain ⟨⟨time, afterClock⟩, clockRead, more⟩ := bind_eq_ok marked
        obtain ⟨⟨offset, afterZone⟩, zoneRead, more⟩ := bind_eq_ok more
        obtain ⟨clockText, clockProper, rfl, rfl⟩ := readTimeOfDay_eq_ok clockRead
        obtain ⟨beforeZone, blank, spelled⟩ := exists_blanks afterClock
        obtain ⟨zone, zoneProper, atZone, rfl⟩ := readZone_eq_ok zoneRead
        dsimp only at more
        split at more
        · rename_i nothing
          obtain ⟨real, near, shift, rfl⟩ := resolve_eq_ok more
          refine ⟨⟨dateText, mark, clockText, beforeZone, zone, afterZone⟩,
            ⟨dateProper, real, near, isMark, clockProper, blank, zoneProper, shift,
              isBlank_of_trimStart nothing⟩, ?_, ?_⟩
          · rw [atZone] at spelled
            simp [Stamp.characters, spelled]
          · have exact_time := clockText.time_milliseconds
            simp only [Stamp.milliseconds, Stamp.seconds]
            omega
        · cases more
      · cases marked

end ProductCatalog.Time
