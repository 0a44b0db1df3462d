import Shaderwright.Json.Reader

/-!
Numbers of active lights, by kind. Materials are built for one such triple.
-/

namespace Shaderwright

-- Powers are those of `Nat` itself, whatever monoids are in scope.
attribute [local instance (high)] instPowNat

/-- How many directional, point and spot lights are active. -/
structure LightCounts where
  directional : Nat := 0
  point : Nat := 0
  spot : Nat := 0
deriving DecidableEq, Repr, Inhabited

namespace LightCounts

def total (lights : LightCounts) : Nat :=
  lights.directional + lights.point + lights.spot

/-- A total that fits into a word of 32 bits is the sum of the counts as such
words. -/
theorem toNat_add_words (lights : LightCounts)
    (fits : lights.total < UInt32.size) :
    (UInt32.ofNat lights.directional + UInt32.ofNat lights.point +
      UInt32.ofNat lights.spot).toNat = lights.total := by
  unfold total at fits ⊢
  simp only [UInt32.toNat_add, UInt32.toNat_ofNat', UInt32.size] at fits ⊢
  omega

/-- The text under which light counts are reported. -/
def text (lights : LightCounts) : String :=
  let directional := lights.directional
  let point := lights.point
  let spot := lights.spot
  s!"{directional} directional, {point} point, {spot} spot"

def toJson (lights : LightCounts) : String :=
  "\x7b\"directional\":" ++ toString lights.directional ++
    ",\"point\":" ++ toString lights.point ++
    ",\"spot\":" ++ toString lights.spot ++ "\x7d"

/-- A count that is stored with `store`. Counts are below `2 ^ 32`. -/
def field (name : String) (store : LightCounts → Nat → LightCounts) :
    Json.RecordField LightCounts where
  name := name
  read := fun lights text => do
    let (count, rest) ← Json.readCount (2 ^ (32 : Nat)) text
    return (store lights count, rest)

def fields : List (Json.RecordField LightCounts) :=
  [ field "directional" fun l count => { l with directional := count },
    field "point" fun l count => { l with point := count },
    field "spot" fun l count => { l with spot := count } ]

/-- Reads light counts from JSON text; kinds that are not given have no
lights. -/
def ofJson (text : String) : Except Json.Fault LightCounts :=
  Json.readAll (Json.readRecord fields {}) text

end LightCounts

end Shaderwright
