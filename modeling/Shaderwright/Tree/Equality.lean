import Shaderwright.Tree

/-!
Equality of trees. Numbers are compared as numbers, so a tree that holds a NaN
differs from itself; parameters are compared by declaration, and functions by
their contents, whatever their handles.
-/

namespace Shaderwright

mutual

def Operand.equals : Operand → Operand → Bool
  | .parameter first, .parameter second => first.equals second
  | .literal first, .literal second => first.equals second
  | .builtIn first, .builtIn second => first == second
  | .operation first, .operation second => first.equals second
  | .raw first, .raw second => first == second
  | _, _ => false

def Operation.equals : Operation → Operation → Bool
  | .assign operator target value, .assign operator' target' value' =>
      operator == operator' && target.equals target' && value.equals value'
  | .declare first, .declare second => first.equals second
  | .arithmetic operator operands, .arithmetic operator' operands' =>
      operator == operator' && operandsEqual operands operands'
  | .compare operator left right, .compare operator' left' right' =>
      operator == operator' && left.equals left' && right.equals right'
  | .select base suffix, .select base' suffix' =>
      base.equals base' && suffix == suffix'
  | .builtIn function arguments, .builtIn function' arguments' =>
      function == function' && operandsEqual arguments arguments'
  | .ifThen condition body, .ifThen condition' body' =>
      condition.equals condition' && operationsEqual body body'
  | .ifElse condition body alternative,
      .ifElse condition' body' alternative' =>
      condition.equals condition' && operationsEqual body body' &&
        operationsEqual alternative alternative'
  | .loop initial condition step body,
      .loop initial' condition' step' body' =>
      initial == initial' && condition == condition' && step == step' &&
        operationsEqual body body'
  | .returnValue first, .returnValue second => first.equals second
  | .returnVoid, .returnVoid => true
  | .call function arguments, .call function' arguments' =>
      function.equals function' && operandsEqual arguments arguments'
  | .construct type operands, .construct type' operands' =>
      type == type' && operandsEqual operands operands'
  | .convert source target pad, .convert source' target' pad' =>
      source.equals source' && target == target' && pad.equals pad'
  | _, _ => false

def ShaderFunction.equals : ShaderFunction → ShaderFunction → Bool
  | ⟨_, name, returnType, parameters, body⟩, other =>
      name == other.name && returnType == other.returnType &&
        parametersEqual parameters other.parameters &&
        operationsEqual body other.body

def parametersEqual : List Parameter → List Parameter → Bool
  | [], [] => true
  | first :: rest, second :: rest' =>
      first.equals second && parametersEqual rest rest'
  | _, _ => false

def operandsEqual : List Operand → List Operand → Bool
  | [], [] => true
  | first :: rest, second :: rest' =>
      first.equals second && operandsEqual rest rest'
  | _, _ => false

def operationsEqual : List Operation → List Operation → Bool
  | [], [] => true
  | first :: rest, second :: rest' =>
      first.equals second && operationsEqual rest rest'
  | _, _ => false

end

end Shaderwright
