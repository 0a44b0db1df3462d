import Shaderwright.Binary32
import Shaderwright.ShaderType

/-!
Literal values that are written into the shader text.
-/

namespace Shaderwright

/-- A literal value. Matrices list their columns one after the other. -/
inductive Literal where
  | scalar (value : Binary32)
  | boolean (value : Bool)
  | vector2 (values : Vector Binary32 2)
  | vector3 (values : Vector Binary32 3)
  | vector4 (values : Vector Binary32 4)
  | matrix2 (values : Vector Binary32 4)
  | matrix3 (values : Vector Binary32 9)
  | matrix4 (values : Vector Binary32 16)
deriving DecidableEq, Repr

namespace Literal

def type : Literal → ShaderType
  | scalar _ => .scalar
  | boolean _ => .boolean
  | vector2 _ => .vector2
  | vector3 _ => .vector3
  | vector4 _ => .vector4
  | matrix2 _ => .matrix2
  | matrix3 _ => .matrix3
  | matrix4 _ => .matrix4

/-- The numbers of a vector or matrix, in the order in which they are
written. -/
def components : Literal → List Binary32
  | scalar value => [value]
  | boolean _ => []
  | vector2 values => values.toList
  | vector3 values => values.toList
  | vector4 values => values.toList
  | matrix2 values => values.toList
  | matrix3 values => values.toList
  | matrix4 values => values.toList

/-- Numbers are equal one by one, as numbers: zeros of either sign agree and
NaN differs from itself. -/
def componentsEqual : List Binary32 → List Binary32 → Bool
  | [], [] => true
  | x :: xs, y :: ys => x.equals y && componentsEqual xs ys
  | _, _ => false

/-- Literals are equal when their types agree and their values do. -/
def equals : Literal → Literal → Bool
  | boolean first, boolean second => first == second
  | first, second =>
      first.type == second.type &&
        componentsEqual first.components second.components

def vector? : List Binary32 → Option Literal
  | [x, y] => some (vector2 #v[x, y])
  | [x, y, z] => some (vector3 #v[x, y, z])
  | [x, y, z, w] => some (vector4 #v[x, y, z, w])
  | _ => none

/-- The matrix literal of four, nine or sixteen numbers. -/
def matrix? (values : List Binary32) : Option Literal :=
  if h : values.length = 4 then
    some (matrix2 ⟨values.toArray, h⟩)
  else if h : values.length = 9 then
    some (matrix3 ⟨values.toArray, h⟩)
  else if h : values.length = 16 then
    some (matrix4 ⟨values.toArray, h⟩)
  else
    none

end Literal

end Shaderwright
