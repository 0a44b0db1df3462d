import Shaderwright.BinaryFormat

/-!
Single-precision numbers, given by their bit patterns. Literals and paddings
of a shader tree hold such numbers.
-/

namespace Shaderwright

open BinaryFormat

-- Powers are those of `Nat` itself, whatever monoids are in scope.
attribute [local instance (high)] instPowNat

/-- A 32-bit floating-point number. Equality of the structure is equality of
patterns; `Binary32.equals` compares numbers. -/
structure Binary32 where
  bits : UInt32
deriving DecidableEq, Repr

namespace Binary32

/-- The pattern without its sign bit. -/
def magnitude (x : Binary32) : Nat :=
  x.bits.toNat % 2 ^ (31 : Nat)

def isNegative (x : Binary32) : Bool :=
  decide (2 ^ (31 : Nat) ≤ x.bits.toNat)

def isFinite (x : Binary32) : Bool :=
  decide (x.magnitude < binary32.infinity)

def isNaN (x : Binary32) : Bool :=
  decide (binary32.infinity < x.magnitude)

/-- Numerical equality: the two zeros are equal, and a NaN differs from
everything, itself included. -/
def equals (x y : Binary32) : Bool :=
  !x.isNaN && !y.isNaN &&
    (x.bits == y.bits || x.magnitude == 0 && y.magnitude == 0)

/-- The number with the given sign and magnitude pattern. -/
def ofMagnitude (negative : Bool) (magnitude : Nat) : Binary32 :=
  ⟨UInt32.ofNat <|
    if negative then 2 ^ (31 : Nat) + magnitude else magnitude⟩

def nan : Binary32 := ⟨0x7FC00000⟩

/-- The infinity with the given sign. -/
def infinite (negative : Bool) : Binary32 :=
  ofMagnitude negative binary32.infinity

/-- The number nearest to an integer, ties going to the even pattern. -/
def ofInt (n : Int) : Binary32 :=
  ofMagnitude (decide (n < 0)) (binary32.nearest n.natAbs 1)

/-- Narrows a double-precision magnitude to the nearest single-precision
one. -/
def narrow (pattern : Nat) : Nat :=
  if pattern < binary64.infinity then
    binary32.nearest (binary64.quanta pattern) (2 ^ binary64.scale)
  else
    binary32.infinity

/-- Reads `digits * 10 ^ exponent` with a sign. Decimal numbers go through
double precision, so they are rounded twice. -/
def ofDecimal (negative : Bool) (digits : Nat) (exponent : Int) : Binary32 :=
  let numerator := digits * 10 ^ exponent.toNat
  let denominator := 10 ^ (-exponent).toNat
  ofMagnitude negative (narrow (binary64.nearest numerator denominator))

end Binary32

end Shaderwright
