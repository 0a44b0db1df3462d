import Shaderwright.Binary32

/-!
Text of floating-point literals. A finite number is written in positional
notation with at least one decimal place, because a literal without a point
is an integer in the target language. Whole numbers are written exactly;
every other number takes the fewest places that still read back as itself.
-/

namespace Shaderwright.Binary32

open BinaryFormat

-- Powers are those of `Nat` itself, whatever monoids are in scope.
attribute [local instance (high)] instPowNat

/-- The last `width` decimal digits of a number, the most significant
first. -/
def decimalDigits : Nat → Nat → List Char
  | 0, _ => []
  | width + 1, n =>
      decimalDigits width (n / 10) ++ [Nat.digitChar (n % 10)]

/-- The text of `n / 10 ^ places`, with exactly that many decimal places. -/
def positional (n places : Nat) : String :=
  toString (n / 10 ^ places) ++ "." ++
    String.ofList (decimalDigits places (n % 10 ^ places))

/-- Four times the magnitude, in quanta. -/
def center (x : Binary32) : Nat :=
  4 * binary32.quanta x.magnitude

/-- Four times the lower end of the numbers that round to `x`. The lower
neighbour of a power of two is half as far away as the upper one. -/
def lowerEnd (x : Binary32) : Nat :=
  let step := 2 ^ binary32.step x.magnitude
  if binary32.significand x.magnitude = 2 ^ binary32.fractionBits then
    x.center - step
  else
    x.center - 2 * step

/-- Four times the upper end of the numbers that round to `x`. -/
def upperEnd (x : Binary32) : Nat :=
  x.center + 2 * 2 ^ binary32.step x.magnitude

/-- Whether `n / 10 ^ places` rounds to the magnitude of `x`. Both ends of the
interval do exactly when the significand is even. -/
def roundsTo (x : Binary32) (n places : Nat) : Bool :=
  let decimal := n * (4 * 2 ^ binary32.scale)
  let lower := x.lowerEnd * 10 ^ places
  let upper := x.upperEnd * 10 ^ places
  if binary32.significand x.magnitude % 2 = 0 then
    decide (lower ≤ decimal ∧ decimal ≤ upper)
  else
    decide (lower < decimal ∧ decimal < upper)

/-- The decimal with the given number of places that reads back as the
magnitude of `x` and is nearest to it; of two equally near ones, the larger.
Only the two neighbours of the magnitude on that decimal grid can qualify. -/
def nearestDecimal? (x : Binary32) (places : Nat) : Option Nat :=
  let unit := 4 * 2 ^ binary32.scale
  let scaled := x.center * 10 ^ places
  let below := scaled / unit
  let candidates :=
    if 2 * (scaled % unit) < unit then
      [below, below + 1]
    else
      [below + 1, below]
  candidates.find? fun n => x.roundsTo n places

/-- The first decimal that reads back, trying `places` and then up to `more`
further places. Where the search ends the decimal is exact. -/
def shortestFrom (x : Binary32) : Nat → Nat → String
  | 0, places =>
      positional (x.center * 10 ^ places / (4 * 2 ^ binary32.scale)) places
  | more + 1, places =>
      match x.nearestDecimal? places with
      | some n => positional n places
      | none => shortestFrom x more (places + 1)

/-- The text of the magnitude of a finite number. A whole number of quanta
has at most `scale` decimal places, which bounds the search. -/
def magnitudeText (x : Binary32) : String :=
  let quanta := binary32.quanta x.magnitude
  if quanta % 2 ^ binary32.scale = 0 then
    positional (quanta / 2 ^ binary32.scale * 10) 1
  else
    x.shortestFrom (binary32.scale - 1) 1

/-- The literal of a finite number, or `none` for infinities and NaN. -/
def literalText? (x : Binary32) : Option String :=
  if x.isFinite then
    some ((if x.isNegative then "-" else "") ++ x.magnitudeText)
  else
    none

/-- The text under which a number without a literal is reported. -/
def nonFiniteText (x : Binary32) : String :=
  if x.isNaN then
    "NaN"
  else if x.isNegative then
    "-inf"
  else
    "inf"

end Shaderwright.Binary32
