import ProductCatalog.Text.Utf8

/-! Pairs of texts in the form in which a query carries them: `key=value`, separated by ampersands.
A plus stands for a space, and a percent sign with two hexadecimal digits for a byte. -/

namespace ProductCatalog.Http.Form

def hexadecimalValue? (c : Char) : Option Nat :=
  if '0' ≤ c ∧ c ≤ '9' then some (c.toNat - '0'.toNat)
  else if 'a' ≤ c ∧ c ≤ 'f' then some (c.toNat - 'a'.toNat + 10)
  else if 'A' ≤ c ∧ c ≤ 'F' then some (c.toNat - 'A'.toNat + 10)
  else none

def byte? (high low : Char) : Option UInt8 :=
  match hexadecimalValue? high, hexadecimalValue? low with
  | some high, some low => some (UInt8.ofNat (16 * high + low))
  | _, _ => none

/-- The bytes of a key or a value. A percent sign without two digits behind it stands for itself. -/
def toBytes : List Char → List UInt8
  | [] => []
  | '%' :: high :: low :: rest =>
    match byte? high low with
    | some byte => byte :: toBytes rest
    | none => 0x25 :: toBytes (high :: low :: rest)
  | '+' :: rest => 0x20 :: toBytes rest
  | c :: rest => String.utf8EncodeChar c ++ toBytes rest

def decodePart (part : List Char) : String :=
  String.ofList (Text.Utf8.decodeLossy (toBytes part))

def decodePair (pair : List Char) : String × String :=
  (decodePart (pair.takeWhile (· ≠ '=')), decodePart ((pair.dropWhile (· ≠ '=')).drop 1))

/-- The pairs in order. Nothing between two ampersands is no pair. -/
def decode (query : List Char) : List (String × String) :=
  ((query.splitOn '&').filter (· ≠ [])).map decodePair

def isPlain (c : Char) : Bool :=
  c.isAlphanum || c == '*' || c == '-' || c == '.' || c == '_'

def hexadecimalDigit (value : Nat) : Char :=
  if value < 10 then Char.ofNat ('0'.toNat + value) else Char.ofNat ('A'.toNat + value - 10)

def encodeByte (byte : UInt8) : List Char :=
  ['%', hexadecimalDigit (byte.toNat / 16), hexadecimalDigit (byte.toNat % 16)]

def encodeChar (c : Char) : List Char :=
  if isPlain c then [c]
  else if c = ' ' then ['+']
  else (String.utf8EncodeChar c).flatMap encodeByte

def encodePart (text : String) : List Char :=
  text.toList.flatMap encodeChar

def encodePair (pair : String × String) : List Char :=
  encodePart pair.1 ++ '=' :: encodePart pair.2

def encode (pairs : List (String × String)) : List Char :=
  ['&'].intercalate (pairs.map encodePair)

end ProductCatalog.Http.Form
