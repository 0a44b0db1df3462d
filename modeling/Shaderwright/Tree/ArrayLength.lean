import Shaderwright.Tree

/-!
Changing the array length of a symbol inside trees. The symbol is changed
wherever its handle occurs, so every tree that shares it sees the new length.
-/

namespace Shaderwright

mutual

def Operand.withArrayLength (handle length : Nat) : Operand → Operand
  | .parameter symbol => .parameter (symbol.withArrayLength handle length)
  | .operation node => .operation (node.withArrayLength handle length)
  | .literal value => .literal value
  | .builtIn source => .builtIn source
  | .raw text => .raw text

def Operation.withArrayLength (handle length : Nat) :
    Operation → Operation
  | .assign operator target value =>
      .assign operator (target.withArrayLength handle length)
        (value.withArrayLength handle length)
  | .declare symbol => .declare (symbol.withArrayLength handle length)
  | .arithmetic operator operands =>
      .arithmetic operator (operandsWithArrayLength handle length operands)
  | .compare operator left right =>
      .compare operator (left.withArrayLength handle length)
        (right.withArrayLength handle length)
  | .select base suffix =>
      .select (base.withArrayLength handle length) suffix
  | .builtIn function arguments =>
      .builtIn function (operandsWithArrayLength handle length arguments)
  | .ifThen condition body =>
      .ifThen (condition.withArrayLength handle length)
        (bodyWithArrayLength handle length body)
  | .ifElse condition body alternative =>
      .ifElse (condition.withArrayLength handle length)
        (bodyWithArrayLength handle length body)
        (bodyWithArrayLength handle length alternative)
  | .loop initial condition step body =>
      .loop initial condition step (bodyWithArrayLength handle length body)
  | .returnValue value =>
      .returnValue (value.withArrayLength handle length)
  | .returnVoid => .returnVoid
  | .call function arguments =>
      .call (function.withArrayLength handle length)
        (operandsWithArrayLength handle length arguments)
  | .construct type operands =>
      .construct type (operandsWithArrayLength handle length operands)
  | .convert source target pad =>
      .convert (source.withArrayLength handle length) target pad

def ShaderFunction.withArrayLength (handle length : Nat) :
    ShaderFunction → ShaderFunction
  | ⟨identity, name, returnType, parameters, body⟩ =>
      ⟨identity, name, returnType,
        parameters.map (Parameter.withArrayLength handle length),
        bodyWithArrayLength handle length body⟩

/-- The operands of a list, with the length of one symbol changed. -/
def operandsWithArrayLength (handle length : Nat) :
    List Operand → List Operand
  | [] => []
  | operand :: rest =>
      operand.withArrayLength handle length ::
        operandsWithArrayLength handle length rest

/-- The operations of a body, with the length of one symbol changed. -/
def bodyWithArrayLength (handle length : Nat) :
    List Operation → List Operation
  | [] => []
  | operation :: rest =>
      operation.withArrayLength handle length ::
        bodyWithArrayLength handle length rest

end

/-- A shader, with the array length of one symbol changed. -/
def Shader.withArrayLength (handle length : Nat) (shader : Shader) :
    Shader :=
  { shader with
    operations := bodyWithArrayLength handle length shader.operations }

end Shaderwright
