import ProductCatalog.Decimal.Reading
import ProductCatalog.Json.Fault

/-! JSON text as a list of tokens. The list ends with the text, or before it with a token that is
not one. How such a token is refused can depend on whether its value is wanted or passed over. -/

namespace ProductCatalog.Json

/-- The faults of a value that breaks off: where it is wanted, and where it is passed over. -/
structure Break where
  wanted : Fault
  passed : Fault
deriving DecidableEq, Repr

def Break.both (fault : Fault) : Break :=
  ⟨fault, fault⟩

/-- A character of a text, or a 16-bit unit that was written by its code. -/
inductive TextPart where
  | char (c : Char)
  | unit (code : Nat)
deriving DecidableEq, Repr

/-- The parts of a number: digits before the point, digits after it, and a power of ten. -/
structure Numeral where
  negative : Bool
  whole : List Char
  fraction : List Char
  power : Option Int
deriving DecidableEq, Repr

inductive Token where
  | openList
  | closeList
  | openRecord
  | closeRecord
  | colon
  | comma
  | null
  | flag (value : Bool)
  | numeral (digits : Numeral)
  | text (parts : List TextPart)
  | broken (fault : Break)
  | brokenText (fault : Break)
deriving DecidableEq, Repr

def isBlank (c : Char) : Bool :=
  c = ' ' || c = '\t' || c = '\n' || c = '\r'

def hexadecimalDigit? (c : Char) : Option Nat :=
  if '0' ≤ c ∧ c ≤ '9' then some (c.toNat - '0'.toNat)
  else if 'a' ≤ c ∧ c ≤ 'f' then some (c.toNat - 'a'.toNat + 10)
  else if 'A' ≤ c ∧ c ≤ 'F' then some (c.toNat - 'A'.toNat + 10)
  else none

def hexadecimalValue? (digits : List Char) : Option Nat :=
  digits.foldlM (fun value digit => (hexadecimalDigit? digit).map (16 * value + ·)) 0

def unescapeLetter? : Char → Option Char
  | '"' => some '"'
  | '\\' => some '\\'
  | '/' => some '/'
  | 'b' => some '\x08'
  | 'f' => some '\x0c'
  | 'n' => some '\n'
  | 'r' => some '\r'
  | 't' => some '\t'
  | _ => none

/-- The parts of a text up to its closing quote, and what follows it; or a fault in place of that.
-/
structure ScannedText where
  parts : List TextPart
  rest : Except Fault (List Char)

def ScannedText.prepend (part : TextPart) (scanned : ScannedText) : ScannedText :=
  { scanned with parts := part :: scanned.parts }

/-- The part that a letter behind a backslash stands for, unless the letter is `u`. -/
def escapedPart (letter : Char) : Except Fault TextPart :=
  match unescapeLetter? letter with
  | some c => .ok (.char c)
  | none => .error (.malformed .unknownEscape)

def unitPart (digits : List Char) : Except Fault TextPart :=
  match hexadecimalValue? digits with
  | some code => .ok (.unit code)
  | none => .error (.malformed .badCode)

/-- The fault of a code that has less than four digits. A text that ends within the four bytes where
they belong was cut off. -/
def shortCode (digits : List Char) : Fault :=
  if (String.ofList digits).utf8ByteSize < 4 then .truncated .text else .malformed .badCode

def plainPart (c : Char) : Except Fault TextPart :=
  if c.toNat < 0x20 then .error (.malformed .controlCharacter) else .ok (.char c)

/-- Goes on with what follows a part, unless the part is at fault. -/
def ScannedText.ofPart (part : Except Fault TextPart) (scanned : ScannedText) : ScannedText :=
  match part with
  | .ok part => scanned.prepend part
  | .error fault => ⟨[], .error fault⟩

def scanText : List Char → ScannedText
  | [] => ⟨[], .error (.truncated .text)⟩
  | c :: rest =>
    if c = '"' then ⟨[], .ok rest⟩
    else if c = '\\' then
      match rest with
      | [] => ⟨[], .error (.truncated .text)⟩
      | letter :: rest =>
        if letter = 'u' then
          match rest with
          | first :: second :: third :: fourth :: rest =>
            .ofPart (unitPart [first, second, third, fourth]) (scanText rest)
          | digits => ⟨[], .error (shortCode digits)⟩
        else .ofPart (escapedPart letter) (scanText rest)
    else .ofPart (plainPart c) (scanText rest)

def isLeading (code : Nat) : Bool := 0xD800 ≤ code && code < 0xDC00
def isTrailing (code : Nat) : Bool := 0xDC00 ≤ code && code < 0xE000

/-- The fault of a unit whose partner does not come, given how the text ends behind the unit. Where
a partner was begun, or the text was cut off, that is the fault. -/
def partnerFault : Option Fault → Fault
  | some (.truncated within) => .truncated within
  | some (.malformed .badCode) => .malformed .badCode
  | _ => .malformed .noPartner

/-- Joins the units of characters beyond `0xFFFF`. A unit that lacks its partner makes the text
malformed, before the fault at which the text may break off at the end of the parts. -/
def joinParts (ending : Option Fault) : List TextPart → Except Fault (List Char)
  | [] =>
    match ending with
    | some fault => .error fault
    | none => .ok []
  | .char c :: rest => (joinParts ending rest).map (c :: ·)
  | .unit code :: rest =>
    if isLeading code then
      match rest with
      | .unit next :: rest =>
        if isTrailing next then
          (joinParts ending rest).map
            (Char.ofNat (0x10000 + (code - 0xD800) * 0x400 + (next - 0xDC00)) :: ·)
        else .error (.malformed .badPartner)
      | [] => .error (partnerFault ending)
      | .char _ :: _ => .error (.malformed .noPartner)
    else if isTrailing code then .error (.malformed .badPartner)
    else (joinParts ending rest).map (Char.ofNat code :: ·)

def decodeParts (parts : List TextPart) : Except Fault String :=
  (joinParts none parts).map String.ofList

def readTextToken (text : List Char) : Token × List Char :=
  let scanned := scanText text
  match scanned.rest with
  | .ok rest => (.text scanned.parts, rest)
  | .error fault =>
    match joinParts (some fault) scanned.parts with
    | .error wanted => (.brokenText ⟨wanted, fault⟩, [])
    | .ok _ => (.brokenText (.both fault), [])

/-- A number that lacks digits was cut off if the text ends there; one that is passed over is
malformed all the same. -/
def missingDigits (rest : List Char) : Token × List Char :=
  let flaw := Fault.malformed .badNumber
  (.broken ⟨if rest = [] then .truncated .value else flaw, flaw⟩, [])

/-- Reads the power of ten at the end of a number. -/
def readPower (numeral : Numeral) (text : List Char) : Token × List Char :=
  match text with
  | mark :: rest =>
    if mark = 'e' ∨ mark = 'E' then
      let (negative, rest) := Decimal.readSign rest
      let digits := rest.takeWhile Decimal.isDigit
      let value : Int := Decimal.digitsValue digits
      if digits = [] then missingDigits rest
      else
        (.numeral { numeral with power := some (if negative then -value else value) },
          rest.dropWhile Decimal.isDigit)
    else (.numeral numeral, text)
  | [] => (.numeral numeral, [])

/-- Reads a number from its first digit on. A zero may not stand before other digits. -/
def readNumeral (negative : Bool) (first : Char) (text : List Char) : Token × List Char :=
  let whole := first :: text.takeWhile Decimal.isDigit
  if first = '0' ∧ 1 < whole.length then (.broken (.both (.malformed .badNumber)), [])
  else
    match text.dropWhile Decimal.isDigit with
    | '.' :: rest =>
      let fraction := rest.takeWhile Decimal.isDigit
      if fraction = [] then missingDigits rest
      else readPower ⟨negative, whole, fraction, none⟩ (rest.dropWhile Decimal.isDigit)
    | rest => readPower ⟨negative, whole, [], none⟩ rest

def readNegative : List Char → Token × List Char
  | first :: text =>
    if Decimal.isDigit first then readNumeral true first text else missingDigits (first :: text)
  | [] => missingDigits []

/-- Reads the rest of a word whose first letter decided which word it is. -/
def readWord (token : Token) : List Char → List Char → Token × List Char
  | [], text => (token, text)
  | _ :: _, [] => (.broken (.both (.truncated .value)), [])
  | letter :: word, c :: text =>
    if c = letter then readWord token word text
    else (.broken (.both (.malformed .unknownWord)), [])

/-- The token that starts with `c`, and the text after it. -/
def readToken (c : Char) (text : List Char) : Token × List Char :=
  match c with
  | '[' => (.openList, text)
  | ']' => (.closeList, text)
  | '\x7b' => (.openRecord, text)
  | '\x7d' => (.closeRecord, text)
  | ':' => (.colon, text)
  | ',' => (.comma, text)
  | '"' => readTextToken text
  | 'n' => readWord .null ['u', 'l', 'l'] text
  | 't' => readWord (.flag true) ['r', 'u', 'e'] text
  | 'f' => readWord (.flag false) ['a', 'l', 's', 'e'] text
  | '-' => readNegative text
  | c =>
    if Decimal.isDigit c then readNumeral false c text
    else (.broken (.both (.malformed .noValue)), [])

theorem rest_ofPart {part : Except Fault TextPart} {scanned : ScannedText} {rest : List Char}
    (found : (ScannedText.ofPart part scanned).rest = .ok rest) : scanned.rest = .ok rest := by
  cases part with
  | ok part => exact found
  | error fault => simp [ScannedText.ofPart] at found

theorem length_scanText {text rest : List Char} (scanned : (scanText text).rest = .ok rest) :
    rest.length ≤ text.length := by
  fun_induction scanText text with
  | case1 => simp at scanned
  | case2 text => simp_all
  | case3 c => simp at scanned
  | case4 first second third fourth text _ ih =>
    have tail := ih (rest_ofPart scanned)
    simp only [List.length_cons]
    omega
  | case5 => simp at scanned
  | case6 letter text _ _ ih =>
    have tail := ih (rest_ofPart scanned)
    simp only [List.length_cons]
    omega
  | case7 c text _ _ ih =>
    have tail := ih (rest_ofPart scanned)
    simp only [List.length_cons]
    omega

theorem length_readTextToken (text : List Char) : (readTextToken text).2.length ≤ text.length := by
  rw [readTextToken]
  split
  next rest scanned => exact length_scanText scanned
  next => split <;> simp

theorem length_dropDigits (text : List Char) :
    (text.dropWhile Decimal.isDigit).length ≤ text.length :=
  (List.dropWhile_suffix _).length_le

theorem length_readSign (text : List Char) : (Decimal.readSign text).2.length ≤ text.length := by
  fun_cases Decimal.readSign text <;> simp

theorem length_readPower (numeral : Numeral) (text : List Char) :
    (readPower numeral text).2.length ≤ text.length := by
  cases text with
  | nil => simp [readPower]
  | cons mark rest =>
    have signed := length_readSign rest
    have dropped := length_dropDigits (Decimal.readSign rest).2
    simp only [readPower, missingDigits]
    repeat' split
    all_goals simp
    all_goals omega

theorem length_readNumeral (negative : Bool) (first : Char) (text : List Char) :
    (readNumeral negative first text).2.length ≤ text.length := by
  have dropped := length_dropDigits text
  simp only [readNumeral, missingDigits]
  split
  · simp
  · split
    next rest found =>
      rw [found] at dropped
      split
      · simp
      · have first := length_readPower ⟨negative, first :: text.takeWhile Decimal.isDigit,
          rest.takeWhile Decimal.isDigit, none⟩ (rest.dropWhile Decimal.isDigit)
        have second := length_dropDigits rest
        simp only [List.length_cons] at dropped
        omega
    next => exact Nat.le_trans (length_readPower _ _) dropped

theorem length_readNegative (text : List Char) : (readNegative text).2.length ≤ text.length := by
  cases text with
  | nil => simp [readNegative, missingDigits]
  | cons first text =>
    have read := length_readNumeral true first text
    simp only [readNegative, missingDigits]
    split
    · simp only [List.length_cons]
      omega
    · simp

theorem length_readWord (token : Token) (word text : List Char) :
    (readWord token word text).2.length ≤ text.length := by
  fun_induction readWord token word text <;> simp_all
  omega

theorem length_readToken (c : Char) (text : List Char) :
    (readToken c text).2.length ≤ text.length := by
  fun_cases readToken c text <;>
    simp [length_readTextToken, length_readWord, length_readNegative, length_readNumeral, *]

def tokens : List Char → List Token
  | [] => []
  | c :: text =>
    if isBlank c then tokens text
    else (readToken c text).1 :: tokens (readToken c text).2
termination_by text => text.length
decreasing_by
  · simp
  · exact Nat.lt_succ_of_le (length_readToken c text)

end ProductCatalog.Json
