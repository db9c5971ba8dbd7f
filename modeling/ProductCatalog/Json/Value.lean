import ProductCatalog.Decimal.Written

/-! JSON values and their text. Members keep the order in which they were given. -/

namespace ProductCatalog.Json

inductive Value where
  | null
  | flag (value : Bool)
  | integer (value : Int)
  | number (value : Float)
  | text (value : String)
  | list (items : List Value)
  | record (members : List (String × Value))

/-- The letter that stands behind a backslash for a character with a short escape. -/
def escapeLetter? : Char → Option Char
  | '"' => some '"'
  | '\\' => some '\\'
  | '\x08' => some 'b'
  | '\x0c' => some 'f'
  | '\n' => some 'n'
  | '\r' => some 'r'
  | '\t' => some 't'
  | _ => none

def hexadecimalCode (code : Nat) : List Char :=
  let digits := Nat.toDigits 16 code
  List.replicate (4 - digits.length) '0' ++ digits

/-- Control characters without a letter of their own are written by their code. -/
def escapeChar (c : Char) : List Char :=
  match escapeLetter? c with
  | some letter => ['\\', letter]
  | none => if c.toNat < 0x20 then ['\\', 'u'] ++ hexadecimalCode c.toNat else [c]

def writeText (text : String) : List Char :=
  '"' :: text.toList.flatMap escapeChar ++ ['"']

/-- A number that is not finite has no text of its own and is written as null. -/
def writeNumber (x : Float) : List Char :=
  if Decimal.isFinite x then Decimal.write x else ['n', 'u', 'l', 'l']

namespace Value

mutual

def write : Value → List Char
  | null => ['n', 'u', 'l', 'l']
  | flag true => ['t', 'r', 'u', 'e']
  | flag false => ['f', 'a', 'l', 's', 'e']
  | integer value => (toString value).toList
  | number value => writeNumber value
  | text value => writeText value
  | list items => '[' :: writeItems items ++ [']']
  | record members => '\x7b' :: writeMembers members ++ ['\x7d']

def writeItems : List Value → List Char
  | [] => []
  | [item] => item.write
  | item :: rest => item.write ++ ',' :: writeItems rest

def writeMembers : List (String × Value) → List Char
  | [] => []
  | [(key, value)] => writeText key ++ ':' :: value.write
  | (key, value) :: rest => writeText key ++ ':' :: value.write ++ ',' :: writeMembers rest

end

def toText (value : Value) : String :=
  String.ofList value.write

end Value

end ProductCatalog.Json
