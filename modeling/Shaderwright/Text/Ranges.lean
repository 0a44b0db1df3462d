/-!
Classes of characters given by ranges of their numbers.
-/

namespace Shaderwright.Text

/-- Whether a character lies in one of the given ranges, ends included. -/
def isWithin (ranges : List (Nat × Nat)) (c : Char) : Bool :=
  ranges.any fun (first, last) => first ≤ c.toNat && c.toNat ≤ last

end Shaderwright.Text
