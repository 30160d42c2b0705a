namespace SqlBridge

/-- A binary floating-point number of 64 bits in its storage form: the sign, eleven bits of exponent
    and 52 bits of fraction. -/
structure Binary64 where
  bits : UInt64
deriving DecidableEq, Inhabited, Repr

namespace Binary64

/-- The sign bit is set. -/
def isNegative (x : Binary64) : Bool :=
  Nat.pow 2 63 ≤ x.bits.toNat

/-- The eleven bits of the exponent. -/
def exponentField (x : Binary64) : Nat :=
  x.bits.toNat / Nat.pow 2 52 % Nat.pow 2 11

/-- The 52 bits of the fraction. -/
def fraction (x : Binary64) : Nat :=
  x.bits.toNat % Nat.pow 2 52

/-- Not a number. -/
def isNaN (x : Binary64) : Bool :=
  x.exponentField == 2047 && x.fraction != 0

/-- Positive or negative infinity. -/
def isInfinite (x : Binary64) : Bool :=
  x.exponentField == 2047 && x.fraction == 0

/-- Positive or negative zero. -/
def isZero (x : Binary64) : Bool :=
  x.exponentField == 0 && x.fraction == 0

/-- A finite number is this many units of `2 ^ scale`, its sign apart. -/
def significand (x : Binary64) : Nat :=
  if x.exponentField = 0 then x.fraction else x.fraction + Nat.pow 2 52

/-- The power of two that one unit of the significand stands for. -/
def scale (x : Binary64) : Int :=
  if x.exponentField = 0 then -1074 else x.exponentField - 1075

/-- The integer next to a finite number on the side of zero. -/
def truncate (x : Binary64) : Int :=
  let magnitude := x.significand * Nat.pow 2 x.scale.toNat / Nat.pow 2 (-x.scale).toNat
  if x.isNegative then -magnitude else magnitude

end Binary64

end SqlBridge
