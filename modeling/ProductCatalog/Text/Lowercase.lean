import ProductCatalog.Text.Blank
import ProductCatalog.Text.CaseTable

/-! Lowercase of whole texts. A letter has one lowercase letter wherever it stands, with two
exceptions: a dotted capital I keeps its dot as a separate mark, and a capital sigma that ends a
word takes its final form. -/

namespace ProductCatalog.Text

def isCased (c : Char) : Bool :=
  inRanges casedRanges c.toNat

def isCaseIgnorable (c : Char) : Bool :=
  inRanges caseIgnorableRanges c.toNat

def CaseRange.contains (range : CaseRange) (code : Nat) : Bool :=
  range.first ≤ code && code ≤ range.last && (code - range.first) % range.step == 0

/-- The lowercase of a code point, itself where the table has none. -/
def lowercaseCode (code : Nat) : Nat :=
  match lowercaseRanges.find? (·.contains code) with
  | some range => range.lower + (code - range.first)
  | none => code

def lowercaseChar (c : Char) : List Char :=
  if c.toNat < 0x80 then [c.toLower]
  else if c = 'İ' then ['i', '\u0307']
  else [Char.ofNat (lowercaseCode c.toNat)]

/-- The first character that is not looked through is a letter with a case. -/
def meetsCased (text : List Char) : Bool :=
  match text.dropWhile isCaseIgnorable with
  | c :: _ => isCased c
  | [] => false

/-- A sigma ends a word when a letter stands before it and none after it. `before` is the text to
its left, nearest character first. -/
def lowercaseSigma (before after : List Char) : Char :=
  if meetsCased before && !meetsCased after then 'ς' else 'σ'

/-- The lowercase of `text` where it follows `before`, nearest character first. -/
def lowercaseAfter (before : List Char) : List Char → List Char
  | [] => []
  | c :: rest =>
    if c = 'Σ' then lowercaseSigma before rest :: lowercaseAfter (c :: before) rest
    else lowercaseChar c ++ lowercaseAfter (c :: before) rest

def lowercase (text : List Char) : List Char :=
  lowercaseAfter [] text

end ProductCatalog.Text
