import ProductCatalog.Decimal.Binary

/-! The decimal of fewest digits that rounds to a given binary number, and among those of equal
length the nearest. All comparisons are made between exact integers. -/

namespace ProductCatalog.Decimal

structure Scaled where
  digits : Nat
  exponent : Int
deriving DecidableEq, Repr

/-- Compares `digits * 10 ^ exponent` with `multiple * 2 ^ power`. -/
def Scaled.compareBinary (decimal : Scaled) (multiple : Nat) (power : Int) : Ordering :=
  compare (decimal.digits * Nat.pow 10 decimal.exponent.toNat * Nat.pow 2 (-power).toNat)
    (multiple * Nat.pow 2 power.toNat * Nat.pow 10 (-decimal.exponent).toNat)

/-- The decimal lies in the interval of reals that round to `x`. The interval ends halfway to the
neighbours, and its ends belong to it when the significand is even. -/
def Binary.readsBack (x : Binary) (decimal : Scaled) : Bool :=
  let least := if x.narrowBelow then 4 * x.significand - 1 else 4 * x.significand - 2
  let greatest := 4 * x.significand + 2
  let closed := x.significand % 2 == 0
  let lower := decimal.compareBinary least (x.exponent - 2)
  let upper := decimal.compareBinary greatest (x.exponent - 2)
  (lower == .gt || closed && lower == .eq) && (upper == .lt || closed && upper == .eq)

/-- The least `k` with `x < 10 ^ k`, found from an estimate that is never too high. -/
def Binary.scale (x : Binary) : Int :=
  let estimate := ((x.significand.log2 : Int) + x.exponent) * 30103 / 100000 - 1
  let below (k : Int) := Scaled.compareBinary ⟨1, k⟩ x.significand x.exponent == .gt
  ([estimate, estimate + 1, estimate + 2].find? below).getD (estimate + 3)

/-- The better of the two neighbours of `x` among the multiples of `10 ^ exponent`, if one of them
reads back. Of two that do the nearer is better, and of two equally near the even one. -/
def Binary.atGrid? (x : Binary) (exponent : Int) : Option Scaled :=
  let numerator := x.significand * Nat.pow 2 x.exponent.toNat * Nat.pow 10 (-exponent).toNat
  let denominator := Nat.pow 2 (-x.exponent).toNat * Nat.pow 10 exponent.toNat
  let floor := numerator / denominator
  let low : Scaled := ⟨floor, exponent⟩
  let high : Scaled := ⟨floor + 1, exponent⟩
  match x.readsBack low, x.readsBack high with
  | false, false => none
  | true, false => some low
  | false, true => some high
  | true, true =>
    match compare (2 * numerator) ((2 * floor + 1) * denominator) with
    | .lt => some low
    | .gt => some high
    | .eq => if floor % 2 = 0 then some low else some high

def Binary.exact (x : Binary) : Scaled :=
  if 0 ≤ x.exponent then ⟨x.significand * Nat.pow 2 x.exponent.toNat, 0⟩
  else ⟨x.significand * Nat.pow 5 (-x.exponent).toNat, x.exponent⟩

/-- One digit is tried first, then two, up to the seventeen that tell any two numbers apart. -/
def Binary.shortest (x : Binary) : Scaled :=
  let scale := x.scale
  ((List.range 17).findSome? fun (count : Nat) => x.atGrid? (scale - (count + 1))).getD x.exact

end ProductCatalog.Decimal
