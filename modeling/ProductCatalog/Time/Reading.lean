import ProductCatalog.Decimal.Reading
import ProductCatalog.Text.Blank
import ProductCatalog.Text.Utf8
import ProductCatalog.Time.Instant

/-! Instants read from text: a date, a time of day and a zone. Blanks may stand before each number
and each separator. The first thing that is wrong decides which fault is reported. -/

namespace ProductCatalog.Time

inductive Fault where
  | tooShort
  | invalid
  | outOfRange
  | trailing
  | impossible
deriving DecidableEq, Repr

def Fault.message : Fault → String
  | tooShort => "premature end of input"
  | invalid => "input contains invalid characters"
  | outOfRange => "input is out of range"
  | trailing => "trailing input"
  | impossible => "no possible date and time matching input"

def maxNumber : Nat := 0x7FFFFFFFFFFFFFFF

/-- Reads digits from the start of a text, at least one of them. -/
def readNumber (digits text : List Char) : Except Fault (Nat × List Char) :=
  if text = [] then .error .tooShort
  else if digits = [] then .error .invalid
  else
    let value := Decimal.digitsValue digits
    if maxNumber < value then .error .outOfRange else .ok (value, text.drop digits.length)

/-- Reads up to `width` digits after blanks, for a number between two bounds. -/
def readPart (width least greatest : Nat) (text : List Char) : Except Fault (Nat × List Char) := do
  let text := Text.trimStart text
  let (value, rest) ← readNumber ((text.take width).takeWhile Decimal.isDigit) text
  if least ≤ value ∧ value ≤ greatest then return (value, rest) else throw .outOfRange

/-- A year has up to four digits, or a sign and any number of them. -/
def readYear (text : List Char) : Except Fault (Int × List Char) := do
  let bounded (year : Int) : Except Fault Int :=
    if -0x80000000 ≤ year ∧ year < 0x80000000 then .ok year else .error .outOfRange
  match Text.trimStart text with
  | '-' :: text =>
    let (value, rest) ← readNumber (text.takeWhile Decimal.isDigit) text
    return (← bounded (-(value : Int)), rest)
  | '+' :: text =>
    let (value, rest) ← readNumber (text.takeWhile Decimal.isDigit) text
    return (← bounded value, rest)
  | text =>
    let (value, rest) ← readNumber ((text.take 4).takeWhile Decimal.isDigit) text
    return (value, rest)

def readSeparator (separator : Char) (text : List Char) : Except Fault (List Char) :=
  match Text.trimStart text with
  | [] => .error .tooShort
  | c :: rest => if c = separator then .ok rest else .error .invalid

def readDate (text : List Char) : Except Fault (Date × List Char) := do
  let (year, text) ← readYear text
  let (month, text) ← readPart 2 1 12 (← readSeparator '-' text)
  let (day, text) ← readPart 2 1 31 (← readSeparator '-' text)
  return (⟨year, month, day⟩, text)

/-- The milliseconds of a fraction of a second; digits beyond the third are dropped. -/
def readFraction : List Char → Except Fault (Nat × List Char)
  | '.' :: text => do
    let digits := text.takeWhile Decimal.isDigit
    let (_, rest) ← readNumber (digits.take 9) text
    return (Decimal.digitsValue ((digits ++ ['0', '0']).take 3), rest.dropWhile Decimal.isDigit)
  | text => .ok (0, text)

/-- A time of day. The milliseconds reach a second second where one was inserted. -/
structure TimeOfDay where
  second : Nat
  millisecond : Nat
deriving DecidableEq, Repr

/-- A sixtieth second is one that was inserted after the last of its minute. -/
def readTimeOfDay (text : List Char) : Except Fault (TimeOfDay × List Char) := do
  let (hour, text) ← readPart 2 0 23 text
  let (minute, text) ← readPart 2 0 59 (← readSeparator ':' text)
  let (second, text) ← readPart 2 0 60 (← readSeparator ':' text)
  let (fraction, text) ← readFraction text
  let ofMinute : TimeOfDay := if second = 60 then ⟨59, fraction + 1000⟩ else ⟨second, fraction⟩
  return ({ ofMinute with second := hour * 3600 + minute * 60 + ofMinute.second }, text)

/-- Two digits, where a text of fewer than two bytes has ended too early. -/
def readTwoDigits (text : List Char) (digits : Char → Char → Except Fault Nat) :
    Except Fault (Nat × List Char) :=
  if (Text.Utf8.encode text).length < 2 then .error .tooShort
  else
    match text with
    | tens :: ones :: rest => (digits tens ones).map (·, rest)
    | _ => .error .invalid

def hourDigits (tens ones : Char) : Except Fault Nat :=
  if Decimal.isDigit tens && Decimal.isDigit ones then .ok (Decimal.digitsValue [tens, ones])
  else .error .invalid

def minuteDigits (tens ones : Char) : Except Fault Nat :=
  if Decimal.isDigit tens && Decimal.isDigit ones then
    if tens ≤ '5' then .ok (Decimal.digitsValue [tens, ones]) else .error .outOfRange
  else .error .invalid

/-- The minutes by which a zone is ahead of universal time. -/
def readOffset (text : List Char) : Except Fault (Int × List Char) :=
  match text with
  | [] => .error .tooShort
  | sign :: rest =>
    if sign = 'Z' ∨ sign = 'z' then .ok (0, rest)
    else if sign = '+' ∨ sign = '-' ∨ sign = '−' then do
      let (hours, rest) ← readTwoDigits rest hourDigits
      let (minutes, rest) ← readTwoDigits
        (rest.dropWhile fun c => c = ':' ∨ Text.isBlank c) minuteDigits
      let offset : Int := hours * 60 + minutes
      return (if sign = '+' then offset else -offset, rest)
    else .error .invalid

/-- The zone of universal time may be written by its name. -/
def readZone (text : List Char) : Except Fault (Int × List Char) :=
  if (text.take 3).map Char.toUpper = ['U', 'T', 'C'] then .ok (0, text.drop 3)
  else readOffset text

/-- The instant that a date, a time of day and a zone denote together. -/
def resolve (date : Date) (time : TimeOfDay) (offset : Int) : Except Fault Int :=
  let second := date.toDays * 86400 + time.second - offset * 60
  if !date.exists? || !date.inRange || 24 * 60 ≤ offset.natAbs then .error .outOfRange
  else if (Date.ofDays (second / 86400)).inRange then .ok (second * 1000 + time.millisecond)
  else .error .impossible

/-- Reads a whole text as an instant, in milliseconds rounded down. -/
def readInstant (text : List Char) : Except Fault Int := do
  let (date, text) ← readDate text
  let text ← match text with
    | [] => throw .tooShort
    | c :: rest => if c = 'T' ∨ c = 't' ∨ c = ' ' then pure rest else throw .invalid
  let (time, text) ← readTimeOfDay text
  let (offset, text) ← readZone (Text.trimStart text)
  if Text.trimStart text = [] then resolve date time offset else throw .trailing

end ProductCatalog.Time
