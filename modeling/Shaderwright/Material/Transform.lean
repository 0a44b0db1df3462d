import Shaderwright.Tree.Build

/-!
Symbols that bring a vertex into clip space, shared by the materials.
-/

namespace Shaderwright.Transform

def position : Parameter := ⟨0, "position", .vector3, .input, 0⟩

def model : Parameter := ⟨1, "model", .matrix4, .constant, 0⟩

def view : Parameter := ⟨2, "view", .matrix4, .constant, 0⟩

def projection : Parameter := ⟨3, "projection", .matrix4, .constant, 0⟩

/-- A point in homogeneous coordinates. -/
def point (vector : Operand) : Operation :=
  .convert vector .vector4 (.ofInt 1)

/-- A direction in homogeneous coordinates. -/
def direction (vector : Operand) : Operation :=
  .convert vector .vector4 (.ofInt 0)

/-- Writes the clip-space position of the vertex. -/
def project : Operation :=
  .set BuiltInVariable.output <|
    Operation.product [projection, view, model, point position]

end Shaderwright.Transform
