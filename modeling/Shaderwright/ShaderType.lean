/-!
Types, qualifiers, stages and precisions of a shader tree. Array-ness is not
part of a type; it belongs to the parameter that declares the array.
-/

namespace Shaderwright

/-- Type of a symbol or of a value. Matrices are square and column-major. -/
inductive ShaderType where
  | scalar
  | vector2
  | vector3
  | vector4
  | matrix2
  | matrix3
  | matrix4
  | boolean
  | texture
deriving DecidableEq, Repr

namespace ShaderType

/-- Every type, in declaration order. -/
def all : List ShaderType :=
  [scalar, vector2, vector3, vector4, matrix2, matrix3, matrix4, boolean,
    texture]

def name : ShaderType → String
  | scalar => "Scalar"
  | vector2 => "Vector2"
  | vector3 => "Vector3"
  | vector4 => "Vector4"
  | matrix2 => "Matrix2"
  | matrix3 => "Matrix3"
  | matrix4 => "Matrix4"
  | boolean => "Boolean"
  | texture => "Texture"

/-- Number of scalar components of a value; a texture is opaque and has
none. -/
def components? : ShaderType → Option Nat
  | scalar => some 1
  | boolean => some 1
  | vector2 => some 2
  | vector3 => some 3
  | vector4 => some 4
  | matrix2 => some 4
  | matrix3 => some 9
  | matrix4 => some 16
  | texture => none

def size (type : ShaderType) : Nat :=
  type.components?.getD 0

/-- The floating type with that many components; one component is a
scalar. -/
def vector? : Nat → Option ShaderType
  | 1 => some scalar
  | 2 => some vector2
  | 3 => some vector3
  | 4 => some vector4
  | _ => none

def isVector : ShaderType → Bool
  | vector2 => true
  | vector3 => true
  | vector4 => true
  | _ => false

def isMatrix : ShaderType → Bool
  | matrix2 => true
  | matrix3 => true
  | matrix4 => true
  | _ => false

/-- Type of one column of a matrix. -/
def column? : ShaderType → Option ShaderType
  | matrix2 => some vector2
  | matrix3 => some vector3
  | matrix4 => some vector4
  | _ => none

end ShaderType

/-- How a symbol is bound: `constant` for a whole draw call, `input` for each
vertex, `varying` when it is interpolated and handed to the next stage. -/
inductive Qualifier where
  | constant
  | input
  | varying
deriving DecidableEq, Repr

namespace Qualifier

/-- Every qualifier, in declaration order. -/
def all : List Qualifier :=
  [constant, input, varying]

/-- The name under which a qualifier is reported and stored. -/
def name : Qualifier → String
  | constant => "Const"
  | input => "Let"
  | varying => "Var"

end Qualifier

/-- The programmable stage a shader runs in. -/
inductive Stage where
  | vertex
  | fragment
deriving DecidableEq, Repr

namespace Stage

/-- Every stage, in pipeline order. -/
def all : List Stage :=
  [vertex, fragment]

def name : Stage → String
  | vertex => "Vertex"
  | fragment => "Fragment"

end Stage

/-- Floating-point precision hint of a stage. -/
inductive Precision where
  | low
  | medium
  | high
deriving DecidableEq, Repr

namespace Precision

/-- Every precision, from the coarsest. -/
def all : List Precision :=
  [low, medium, high]

/-- The name under which a precision is reported and stored. -/
def name : Precision → String
  | low => "Low"
  | medium => "Medium"
  | high => "High"

end Precision

/-- The member of a finite family that carries the given name. -/
def named? {α : Type} (name : α → String) (all : List α) (text : String) :
    Option α :=
  all.find? fun member => name member == text

end Shaderwright
