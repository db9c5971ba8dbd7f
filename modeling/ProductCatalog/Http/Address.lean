import ProductCatalog.Decimal.Reading

/-! The texts of internet addresses. -/

namespace ProductCatalog.Http

/-- A number from 0 to 255 in decimal digits, without needless zeros. -/
def isOctet (text : List Char) : Bool :=
  text ≠ [] && text.all Decimal.isDigit && (text.length == 1 || text.head? != some '0') &&
    text.length ≤ 3 && Decimal.digitsValue text ≤ 255

def isAddress4 (text : List Char) : Bool :=
  let octets := text.splitOn '.'
  octets.length == 4 && octets.all isOctet

def isHexadecimal (c : Char) : Bool :=
  Decimal.isDigit c || ('a' ≤ c && c ≤ 'f') || ('A' ≤ c && c ≤ 'F')

def isGroup (text : List Char) : Bool :=
  text ≠ [] && text.length ≤ 4 && text.all isHexadecimal

/-- The number of groups, separated by colons, that a text stands for; none for an empty text. -/
def countGroups? (text : List Char) : Option Nat :=
  if text = [] then some 0
  else
    let groups := text.splitOn ':'
    if groups.all isGroup then some groups.length else none

/-- The same, where an address of four octets may stand for the last two groups. -/
def countLastGroups? (text : List Char) : Option Nat :=
  if isAddress4 text then some 2
  else
    let groups := text.splitOn ':'
    match groups.getLast? with
    | some last =>
      if isAddress4 last ∧ groups.dropLast.all isGroup then some (groups.length + 1)
      else countGroups? text
    | none => countGroups? text

def splitAtGap? : List Char → Option (List Char × List Char)
  | [] => none
  | ':' :: ':' :: rest => some ([], rest)
  | c :: rest => (splitAtGap? rest).map fun parts => (c :: parts.1, parts.2)

/-- Eight groups, or fewer with a double colon in place of those that are left out. -/
def isAddress6 (text : List Char) : Bool :=
  match splitAtGap? text with
  | none => countLastGroups? text == some 8
  | some (before, behind) =>
    match countGroups? before, countLastGroups? behind with
    | some first, some last => first + last ≤ 7
    | _, _ => false

def isAddress (host : String) : Bool :=
  isAddress4 host.toList || isAddress6 host.toList

end ProductCatalog.Http
