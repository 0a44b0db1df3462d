/-!
Binary floating-point formats in exact natural-number arithmetic. A finite
magnitude of a format is a whole number of *quanta*, the least positive
magnitude, so decoding never rounds; the magnitudes of a format are numbered
in increasing order by their bit patterns.
-/

namespace Shaderwright

-- Powers are those of `Nat` itself, whatever monoids are in scope.
attribute [local instance (high)] instPowNat

/-- `numerator / denominator` rounded to the nearest natural number; a half
goes to the even neighbour. -/
def divideToNearest (numerator denominator : Nat) : Nat :=
  let quotient := numerator / denominator
  let remainder := numerator % denominator
  if 2 * remainder < denominator then
    quotient
  else if denominator < 2 * remainder then
    quotient + 1
  else if quotient % 2 = 0 then
    quotient
  else
    quotient + 1

/-- A binary format: the bits that follow the leading bit of a significand,
the number `scale` for which a quantum is `2 ^ (-scale)`, and the exponent
field that marks infinity. -/
structure BinaryFormat where
  fractionBits : Nat
  scale : Nat
  infiniteField : Nat
deriving DecidableEq, Repr

namespace BinaryFormat

def binary32 : BinaryFormat := ⟨23, 149, 255⟩

def binary64 : BinaryFormat := ⟨52, 1074, 2047⟩

/-- The pattern of infinity; the finite magnitudes have smaller patterns. -/
def infinity (format : BinaryFormat) : Nat :=
  format.infiniteField * 2 ^ format.fractionBits

/-- Significand of a finite pattern. Patterns below `2 ^ fractionBits` are
subnormal and lack the leading bit. -/
def significand (format : BinaryFormat) (pattern : Nat) : Nat :=
  if pattern < 2 ^ format.fractionBits then
    pattern
  else
    2 ^ format.fractionBits + pattern % 2 ^ format.fractionBits

/-- Distance from a pattern to its successor, as a power of two in quanta. -/
def step (format : BinaryFormat) (pattern : Nat) : Nat :=
  pattern / 2 ^ format.fractionBits - 1

/-- Magnitude of a finite pattern in quanta. -/
def quanta (format : BinaryFormat) (pattern : Nat) : Nat :=
  format.significand pattern * 2 ^ format.step pattern

/-- Pattern of the magnitude nearest to `numerator / denominator`, ties going
to the even pattern. A quotient above every finite magnitude by half a step
or more becomes infinity. -/
def nearest (format : BinaryFormat) (numerator denominator : Nat) : Nat :=
  let scaled := numerator * 2 ^ format.scale
  let step := Nat.log2 (scaled / denominator) - format.fractionBits
  let pattern :=
    step * 2 ^ format.fractionBits +
      divideToNearest scaled (denominator * 2 ^ step)
  min pattern format.infinity

end BinaryFormat

end Shaderwright
