/-! The bits of a number in the 64-bit binary format, read as exact integers: which values are
finite, how they are ordered, and the reals that round to one of them. -/

namespace ProductCatalog.Decimal

def signBit : Nat := 0x8000000000000000

/-- The bits below the sign. They order all values of one sign. -/
def magnitude (x : Float) : Nat :=
  x.toBits.toNat % signBit

def isNegative (x : Float) : Bool :=
  signBit ≤ x.toBits.toNat

/-- The magnitude of the two infinities; what lies above it is no number. -/
def infiniteMagnitude : Nat := 0x7FF0000000000000

def isFinite (x : Float) : Bool :=
  magnitude x < infiniteMagnitude

def isUndefined (x : Float) : Bool :=
  infiniteMagnitude < magnitude x

/-- The place of a number among all numbers. The two zeros share one. -/
def rank (x : Float) : Int :=
  if isNegative x then -(magnitude x : Int) else magnitude x

/-- The order of numbers; a value that is no number is neither less nor greater than any. -/
def isLess (x y : Float) : Bool :=
  !isUndefined x && !isUndefined y && decide (rank x < rank y)

/-- Equality as numbers: the zeros are equal, and a value that is no number differs even from
itself. -/
def isSame (x y : Float) : Bool :=
  !isUndefined x && !isUndefined y && decide (rank x = rank y)

def unsignedZero (x : Float) : Float :=
  if rank x = 0 then 0.0 else x

/-- A finite number without its sign, `significand * 2 ^ exponent`. -/
structure Binary where
  significand : Nat
  exponent : Int
  /-- The next lower number is only half as far away as the next higher one. -/
  narrowBelow : Bool
deriving DecidableEq, Repr

/-- The lowest bit of the exponent, which stands above those of the fraction. -/
def exponentBit : Nat := 0x10000000000000

def Binary.ofMagnitude (bits : Nat) : Binary :=
  let exponent : Nat := bits / exponentBit
  let fraction : Nat := bits % exponentBit
  if exponent = 0 then ⟨fraction, -1074, false⟩
  else ⟨exponentBit + fraction, (exponent : Int) - 1075, fraction == 0 && 1 < exponent⟩

end ProductCatalog.Decimal
