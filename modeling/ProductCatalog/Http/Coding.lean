import ProductCatalog.Decimal.Reading
import ProductCatalog.Text.Blank

/-! The choice of a coding for a body. A client lists the codings that it accepts, each with a
weight between 0 and 1, and the one with the greatest weight is taken. -/

namespace ProductCatalog.Http

inductive Coding where
  | identity
  | gzip
deriving DecidableEq, Repr

namespace Coding

def ofName? (name : List Char) : Option Coding :=
  let name := String.ofList (name.map Char.toLower)
  if name = "gzip" ∨ name = "x-gzip" then some gzip
  else if name = "identity" then some identity
  else none

def preference : Coding → Nat
  | identity => 0
  | gzip => 1

/-- The digits behind the point of a weight, at most three, in thousandths. -/
def readThousandths? (digits : List Char) : Option Nat :=
  if digits.all Decimal.isDigit ∧ digits.length ≤ 3 then
    some (Decimal.digitsValue (digits ++ List.replicate (3 - digits.length) '0'))
  else none

def readWeight? (text : List Char) : Option Nat :=
  let value? := match text with
    | ['0'] => some 0
    | ['1'] => some 1000
    | '0' :: '.' :: digits => readThousandths? digits
    | '1' :: '.' :: digits => (readThousandths? digits).map (1000 + ·)
    | _ => none
  value?.filter (· ≤ 1000)

def readParameter? : List Char → Option Nat
  | 'q' :: '=' :: weight | 'Q' :: '=' :: weight => readWeight? weight
  | _ => none

/-- A coding with its weight, which is 1 where none is given. -/
def readOffer? (offer : List Char) : Option (Coding × Nat) := do
  let coding ← ofName? (Text.trim (offer.takeWhile (· ≠ ';')))
  let weight ← match offer.dropWhile (· ≠ ';') with
    | [] => some 1000
    | _ :: parameter => readParameter? (Text.trim parameter)
  return (coding, weight)

def isReadable (text : List Char) : Bool :=
  text.all fun c => c == '\t' || (' ' ≤ c && c ≤ '~')

/-- What the values of the header offer. A value that cannot be read offers nothing. -/
def offers (values : List String) : List (Coding × Nat) :=
  (values.filter fun value => isReadable value.toList).flatMap fun value =>
    (value.toList.splitOn ',').filterMap readOffer?

def better (left right : Coding × Nat) : Coding × Nat :=
  if left.2 < right.2 ∨ left.2 = right.2 ∧ left.1.preference ≤ right.1.preference then right
  else left

/-- The coding that is taken. Offers without weight do not count, and without any the body is sent
as it is. -/
def choose (values : List String) : Coding :=
  (((offers values).filter (0 < ·.2)).foldl better (identity, 0)).1

end Coding

end ProductCatalog.Http
