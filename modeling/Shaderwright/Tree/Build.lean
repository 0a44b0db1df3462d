import Shaderwright.Tree

/-!
Short names for the operations that materials are made of.
-/

namespace Shaderwright.Operation

def set (target value : Operand) : Operation :=
  .assign .assign target value

/-- Declares a local variable and gives it its first value. -/
def introduce (symbol : Parameter) (value : Operand) : Operation :=
  set (Operation.declare symbol) value

def addTo (target value : Operand) : Operation :=
  .assign .add target value

def plus (left right : Operand) : Operation :=
  .arithmetic .add [left, right]

def minus (left right : Operand) : Operation :=
  .arithmetic .subtract [left, right]

def times (left right : Operand) : Operation :=
  .arithmetic .multiply [left, right]

def product (factors : List Operand) : Operation :=
  .arithmetic .multiply factors

def quotient (left right : Operand) : Operation :=
  .arithmetic .divide [left, right]

def minimum (left right : Operand) : Operation :=
  .builtIn .min [left, right]

def maximum (left right : Operand) : Operation :=
  .builtIn .max [left, right]

def dotProduct (left right : Operand) : Operation :=
  .builtIn .dot [left, right]

def normalized (vector : Operand) : Operation :=
  .builtIn .normalize [vector]

end Shaderwright.Operation

namespace Shaderwright.Operand

def whole (n : Int) : Operand :=
  .literal (.scalar (.ofInt n))

def half : Operand :=
  .literal (.scalar ⟨0x3F000000⟩)

end Shaderwright.Operand
