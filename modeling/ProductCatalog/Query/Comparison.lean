import ProductCatalog.Decimal.Reading
import ProductCatalog.Product.Field
import ProductCatalog.Text.Blank

/-! Comparisons of a numeric field with a number, as clients write them: clauses such as
`price>=50`, separated by commas. Each clause is read on its own, so that one that makes no sense
leaves the others as they are. -/

namespace ProductCatalog.Query

inductive Comparator where
  | equal
  | greater
  | less
  | greaterOrEqual
  | lessOrEqual
deriving DecidableEq, Repr

def Comparator.symbol : Comparator → String
  | .equal => "="
  | .greater => ">"
  | .less => "<"
  | .greaterOrEqual => ">="
  | .lessOrEqual => "<="

structure Comparison where
  field : NumericField
  comparator : Comparator
  value : Float
deriving DecidableEq

inductive Token where
  | text (characters : List Char)
  | comparator (sign : Comparator)
  | comma
deriving DecidableEq, Repr

namespace Token

def characters : Token → List Char
  | text characters => characters
  | comparator sign => sign.symbol.toList
  | comma => [',']

/-- Puts a character in front of the text that begins a list of tokens. -/
def prependChar (c : Char) : List Token → List Token
  | text characters :: tokens => text (c :: characters) :: tokens
  | tokens => text [c] :: tokens

/-- Splits a text into separators, comparators and the runs of text between them. A comparator of
two characters wins over its first character. -/
def ofChars : List Char → List Token
  | [] => []
  | ',' :: rest => comma :: ofChars rest
  | '>' :: '=' :: rest => comparator .greaterOrEqual :: ofChars rest
  | '<' :: '=' :: rest => comparator .lessOrEqual :: ofChars rest
  | '>' :: rest => comparator .greater :: ofChars rest
  | '<' :: rest => comparator .less :: ofChars rest
  | '=' :: rest => comparator .equal :: ofChars rest
  | c :: rest => prependChar c (ofChars rest)

def toChars (tokens : List Token) : List Char :=
  tokens.flatMap characters

end Token

inductive ClauseFault where
  | malformed (clause : String)
  | unknownField (name : String)
  | invalidNumber (field value : String)
deriving DecidableEq, Repr

def ClauseFault.message : ClauseFault → String
  | .malformed clause => s!"Malformed numeric filter clause: '{clause}'"
  | .unknownField name => s!"Field '{name}' does not support numeric filters"
  | .invalidNumber field value => s!"Invalid numeric value '{value}' for {field}"

def readFinite? (text : List Char) : Option Float :=
  (Decimal.read? text).filter Decimal.isFinite

/-- A clause is a field, a comparator and a number, with blanks allowed around field and number. -/
def Comparison.ofTokens : List Token → Except ClauseFault Comparison
  | [.text field, .comparator comparator, .text value] =>
    let name := String.ofList (Text.trim field)
    match NumericField.ofLabel? name with
    | none => .error (.unknownField name)
    | some field =>
      match readFinite? (Text.trim value) with
      | none => .error (.invalidNumber name (String.ofList (Text.trim value)))
      | some value => .ok ⟨field, comparator, value⟩
  | tokens => .error (.malformed (String.ofList (Token.toChars tokens)))

/-- The outcome of every clause in order. A blank text has no clauses. -/
def clauses (text : List Char) : List (Except ClauseFault Comparison) :=
  if Text.trim text = [] then []
  else ((Token.ofChars text).splitOn .comma).map Comparison.ofTokens

def comparisons (text : List Char) : List Comparison :=
  (clauses text).filterMap Except.toOption

end ProductCatalog.Query
