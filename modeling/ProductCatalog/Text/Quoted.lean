import ProductCatalog.Text.Blank
import ProductCatalog.Text.HiddenTable

/-! Texts between quotes, as messages show them: every character stands for itself unless it would
end the text, begin an escape, or not be seen. -/

namespace ProductCatalog.Text

def isHidden (c : Char) : Bool :=
  inRanges hiddenRanges c.toNat

/-- A character by its code point, in hexadecimal without leading zeros. -/
def codeEscape (c : Char) : List Char :=
  ['\\', 'u', '\x7b'] ++ Nat.toDigits 16 c.toNat ++ ['\x7d']

def quoteChar (c : Char) : List Char :=
  if c = '\u0000' then ['\\', '0']
  else if c = '\t' then ['\\', 't']
  else if c = '\n' then ['\\', 'n']
  else if c = '\r' then ['\\', 'r']
  else if c = '"' ∨ c = '\\' then ['\\', c]
  else if isHidden c then codeEscape c
  else [c]

def quoted (text : String) : String :=
  String.ofList ('"' :: text.toList.flatMap quoteChar ++ ['"'])

end ProductCatalog.Text
