import ProductCatalog.Decimal.Written
import ProductCatalog.Json.Node
import ProductCatalog.Text.Quoted

/-! Values of known types read from the tree of a JSON text. Everything is taken in the order of the
text, so that the fault reported is the first one in it, a wrong type no less than wrong JSON. -/

namespace ProductCatalog.Json

/-- Takes in digits as long as the number that they make stays below `2 ^ 64`: that number, and the
digits that were left out. -/
def absorbDigits (value : Nat) : List Char → Nat × List Char
  | [] => (value, [])
  | digit :: rest =>
    let next := 10 * value + Decimal.digitValue digit
    if next < UInt64.size then absorbDigits next rest else (value, digit :: rest)

def powerOfTen (power : Nat) : Float :=
  Float.ofScientific 1 false power

def maxPower : Nat := 308

/-- A significand times a power of ten, rounded once for the significand, once for the power, and
once for their product or quotient. Nothing if the result is beyond all numbers. -/
def scaleByPower? (significand : Nat) (power : Int) : Option Float :=
  let start := Float.ofScientific significand false 0
  if significand = 0 then some 0.0
  else if 0 ≤ power then
    if maxPower < power then none
    else (some (start * powerOfTen power.toNat)).filter Decimal.isFinite
  else if -(maxPower : Int) ≤ power then some (start / powerOfTen power.natAbs)
  else if -2 * (maxPower : Int) ≤ power then
    some (start / powerOfTen maxPower / powerOfTen (power.natAbs - maxPower))
  else some 0.0

/-- What a numeral denotes: an integer where it is written as one that 64 bits can hold, otherwise
the number that its first digits are rounded to. -/
inductive Quantity where
  | integer (value : Int)
  | number (value : Float)
deriving DecidableEq

def Quantity.toFloat : Quantity → Float
  | integer value => Decimal.negateIf (value < 0) (Float.ofScientific value.natAbs false 0)
  | number value => value

def Quantity.found : Quantity → Found
  | integer value => .integer value
  | number value => .number (String.ofList (Decimal.write value))

def Numeral.quantity (numeral : Numeral) : Except Fault Quantity :=
  let (whole, dropped) := absorbDigits 0 numeral.whole
  if numeral.fraction = [] ∧ numeral.power = none ∧ dropped = [] ∧
      (!numeral.negative ∨ 0 < whole ∧ whole ≤ Decimal.signBit) then
    .ok (.integer (if numeral.negative then -(whole : Int) else whole))
  else
    let (significand, ignored) := absorbDigits whole numeral.fraction
    let taken := numeral.fraction.length - ignored.length
    match scaleByPower? significand (numeral.power.getD 0 + dropped.length - taken) with
    | some value => .ok (.number (Decimal.negateIf numeral.negative value))
    | none => .error (.malformed .numberOutOfRange)

/-- The limit on how deep values that are kept may nest. -/
def maxDepth : Nat := 127

namespace Node

/-- The fault of a value that has another type than the one expected. -/
def reject (expected : String) : Node → Fault
  | null => .invalidType .null expected
  | flag value => .invalidType (.flag value) expected
  | numeral digits =>
    match digits.quantity with
    | .ok quantity => .invalidType quantity.found expected
    | .error fault => fault
  | text parts =>
    match decodeParts parts with
    | .ok value => .invalidType (.text (Text.quoted value)) expected
    | .error fault => fault
  | list _ _ => .invalidType .list expected
  | record _ _ => .invalidType .record expected
  | broken fault => fault.wanted

def toText : Node → Except Fault String
  | text parts => decodeParts parts
  | node => .error (node.reject "a string")

def toNumber : Node → Except Fault Float
  | numeral digits => digits.quantity.map Quantity.toFloat
  | node => .error (node.reject "f64")

def toFlag : Node → Except Fault Bool
  | flag value => .ok value
  | node => .error (node.reject "a boolean")

def toWord16 : Node → Except Fault UInt16
  | numeral digits => do
    match ← digits.quantity with
    | .integer value =>
      if 0 ≤ value ∧ value < UInt16.size then return UInt16.ofNat value.toNat
      else throw (.invalidValue (.integer value) "u16")
    | quantity => throw (.invalidType quantity.found "u16")
  | node => .error (node.reject "u16")

def optional {α : Type} (read : Node → Except Fault α) : Node → Except Fault (Option α)
  | null => .ok none
  | node => (read node).map some

mutual

def pass : Node → Except Fault Unit
  | list items ending => do
    passItems items
    passEnding ending
  | record members ending => do
    passMembers members
    passEnding ending
  | broken fault => .error fault.passed
  | null | flag _ | numeral _ | text _ => .ok ()

def passItems : List Node → Except Fault Unit
  | [] => .ok ()
  | item :: rest => do
    pass item
    passItems rest

def passMembers : List (List TextPart × Node) → Except Fault Unit
  | [] => .ok ()
  | (_, value) :: rest => do
    pass value
    passMembers rest

def passEnding : Option Break → Except Fault Unit
  | some fault => .error fault.passed
  | none => .ok ()

end

mutual

/-- The first fault of a value that is kept without looking at its type, `depth` being how many
lists and records may still be entered. -/
def keep (depth : Nat) : Node → Except Fault Unit
  | list items ending => do
    if depth = 0 then throw (.malformed .tooDeep)
    keepItems (depth - 1) items
    keepEnding ending
  | record members ending => do
    if depth = 0 then throw (.malformed .tooDeep)
    keepMembers (depth - 1) members
    keepEnding ending
  | broken fault => .error fault.wanted
  | numeral digits => digits.quantity.map fun _ => ()
  | text parts => (decodeParts parts).map fun _ => ()
  | null | flag _ => .ok ()

def keepItems (depth : Nat) : List Node → Except Fault Unit
  | [] => .ok ()
  | item :: rest => do
    keep depth item
    keepItems depth rest

def keepMembers (depth : Nat) : List (List TextPart × Node) → Except Fault Unit
  | [] => .ok ()
  | (key, value) :: rest => do
    let _ ← decodeParts key
    keep depth value
    keepMembers depth rest

def keepEnding : Option Break → Except Fault Unit
  | some fault => .error fault.wanted
  | none => .ok ()

end

/-- Goes through the members of a record. The key of each decides how its value is taken in. -/
def foldMembers {σ : Type} (take : String → σ → Node → Except Fault σ) (state : σ) :
    List (List TextPart × Node) → Except Fault σ
  | [] => .ok state
  | (key, value) :: rest => do
    let state ← take (← decodeParts key) state value
    foldMembers take state rest

/-- Takes in the value of a field that may be given once. -/
def once {σ α : Type} (name : String) (current : Option α) (read : Node → Except Fault α)
    (store : α → σ) (value : Node) : Except Fault σ :=
  match current with
  | some _ => .error (.duplicateField name)
  | none => (read value).map store

/-- The item at a position of a list that is read as a record; `missing` where the list is shorter.
-/
def item {α : Type} (items : List Node) (ending : Option Break) (position : Nat)
    (read : Node → Except Fault α) (missing : Except Fault α) : Except Fault α :=
  match items[position]?, ending with
  | some node, _ => read node
  | none, some fault => .error fault.wanted
  | none, none => missing

/-- A list that is read as a record of `count` fields must end with the last of them. -/
def endOfItems (items : List Node) (ending : Option Break) (count : Nat) : Except Fault Unit :=
  match items[count]?, ending with
  | some (broken ⟨.malformed .trailingComma, _⟩), _ => .error (.malformed .trailingComma)
  | some _, _ => .error (.malformed .trailing)
  | none, some ⟨.truncated within, _⟩ => .error (.truncated within)
  | none, some _ => .error (.malformed .trailing)
  | none, none => .ok ()

end Node

/-- Reads a whole text. What stands behind the value counts only once the value is accepted. -/
def decode {α : Type} (read : Node → Except Fault α) (text : String) : Except Fault α := do
  let document := Document.ofChars text.toList
  let value ← read document.root
  if document.trailing then throw (.malformed .trailing) else return value

end ProductCatalog.Json
