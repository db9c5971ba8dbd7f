import ProductCatalog.Decimal.Shortest

/-! Numbers as text: the fewest digits that identify the number, in plain form where the leading
digit is not too far from the point, and otherwise with a signed exponent. -/

namespace ProductCatalog.Decimal

/-- The exponents of a leading digit between which numbers are written without an exponent. -/
def plainFrom : Int := -5
def plainUpTo : Int := 15

/-- Lays out `digits`, the first of which stands for that many times `10 ^ leading`. A plain number
has at least one digit on either side of its point. -/
def layOut (digits : List Char) (leading : Int) : List Char :=
  if leading < plainFrom ∨ plainUpTo < leading then
    let fraction := match digits.drop 1 with
      | [] => []
      | rest => '.' :: rest
    digits.take 1 ++ fraction ++ ['e', if leading < 0 then '-' else '+'] ++
      Nat.toDigits 10 leading.natAbs
  else if leading < 0 then
    ['0', '.'] ++ List.replicate (leading.natAbs - 1) '0' ++ digits
  else
    let whole := leading.toNat + 1
    if digits.length ≤ whole then
      digits ++ List.replicate (whole - digits.length) '0' ++ ['.', '0']
    else digits.take whole ++ ['.'] ++ digits.drop whole

/-- The digits without zeros at their end; the first one is always kept. -/
def significantDigits (digits : List Char) : List Char :=
  digits.take 1 ++ ((digits.drop 1).reverse.dropWhile (· = '0')).reverse

def writeMagnitude (x : Binary) : List Char :=
  if x.significand = 0 then ['0', '.', '0']
  else
    let decimal := x.shortest
    let digits := Nat.toDigits 10 decimal.digits
    layOut (significantDigits digits) (decimal.exponent + digits.length - 1)

def write (x : Float) : List Char :=
  let text := writeMagnitude (Binary.ofMagnitude (magnitude x))
  if isNegative x then '-' :: text else text

end ProductCatalog.Decimal
