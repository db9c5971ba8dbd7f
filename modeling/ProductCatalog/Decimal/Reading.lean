import ProductCatalog.Decimal.Binary

/-! Numbers read from text. A number may carry a sign, has digits on at least one side of an
optional point, and may end in an exponent; infinity and the undefined value are written by name.
What is read is the number nearest to the decimal. -/

namespace ProductCatalog.Decimal

def isDigit (c : Char) : Bool :=
  '0' ≤ c && c ≤ '9'

def digitValue (c : Char) : Nat :=
  c.toNat - '0'.toNat

/-- The natural number that the digits denote, the first counting most. -/
def digitsValue (digits : List Char) : Nat :=
  digits.foldl (fun value digit => 10 * value + digitValue digit) 0

def infinity : Float := Float.ofBits 0x7FF0000000000000
def undefinedNumber : Float := Float.ofBits 0x7FF8000000000000

/-- Beyond these powers of ten every number is infinite or zero. -/
def powerLimit : Int := 400

def nearest (digits : Nat) (exponent : Int) : Float :=
  let leading := exponent + (digits.log2 : Int) * 30103 / 100000
  if digits = 0 ∨ leading < -powerLimit then 0.0
  else if powerLimit < leading then infinity
  else Float.ofScientific digits (exponent < 0) exponent.natAbs

def negateIf (negative : Bool) (x : Float) : Float :=
  if negative then Float.ofBits (UInt64.ofNat (magnitude x + signBit)) else x

/-- Splits a sign off: whether it is a minus, and what follows. -/
def readSign : List Char → Bool × List Char
  | '-' :: rest => (true, rest)
  | '+' :: rest => (false, rest)
  | text => (false, text)

/-- The exponent that ends a number: nothing at all, or its mark, a sign, and digits. -/
def readExponent? : List Char → Option Int
  | [] => some 0
  | mark :: rest =>
    let (negative, digits) := readSign rest
    if (mark = 'e' ∨ mark = 'E') ∧ digits ≠ [] ∧ digits.all isDigit then
      some (if negative then -(digitsValue digits : Int) else digitsValue digits)
    else none

/-- A number without its sign, as its digits and the power of ten of the last of them. -/
def readUnsigned? (text : List Char) : Option (Nat × Int) :=
  let whole := text.takeWhile isDigit
  let (fraction, rest) := match text.dropWhile isDigit with
    | '.' :: rest => (rest.takeWhile isDigit, rest.dropWhile isDigit)
    | rest => ([], rest)
  if whole = [] ∧ fraction = [] then none
  else
    (readExponent? rest).map fun exponent =>
      (digitsValue (whole ++ fraction), exponent - fraction.length)

def namedNumber? (text : List Char) : Option Float :=
  match text.map Char.toLower with
  | ['i', 'n', 'f'] | ['i', 'n', 'f', 'i', 'n', 'i', 't', 'y'] => some infinity
  | ['n', 'a', 'n'] => some undefinedNumber
  | _ => none

/-- The number that a whole text denotes, if it denotes one. -/
def read? (text : List Char) : Option Float :=
  let (negative, unsigned) := readSign text
  let value := match namedNumber? unsigned with
    | some value => some value
    | none => (readUnsigned? unsigned).map fun (digits, exponent) => nearest digits exponent
  value.map (negateIf negative)

end ProductCatalog.Decimal
