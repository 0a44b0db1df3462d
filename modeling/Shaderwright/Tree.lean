import Shaderwright.BuiltIn
import Shaderwright.Literal
import Shaderwright.Parameter

/-!
Shader trees. Operations are the inner nodes and operands the places where a
value is wanted; functions hold bodies of operations and are the callees of
calls. Nothing here looks at types: an ill-typed tree is a tree, and lowering
rejects it.
-/

namespace Shaderwright

inductive AssignmentOperator where
  | assign
  | add
  | subtract
  | multiply
  | divide
deriving DecidableEq, Repr

/-- The operator in the target language. -/
def AssignmentOperator.symbol : AssignmentOperator → String
  | assign => "="
  | add => "+="
  | subtract => "-="
  | multiply => "*="
  | divide => "/="

inductive ArithmeticOperator where
  | add
  | subtract
  | multiply
  | divide
deriving DecidableEq, Repr

/-- The operator in the target language. -/
def ArithmeticOperator.symbol : ArithmeticOperator → String
  | add => "+"
  | subtract => "-"
  | multiply => "*"
  | divide => "/"

inductive ComparisonOperator where
  | equals
  | notEquals
  | less
  | lessEquals
  | greater
  | greaterEquals
deriving DecidableEq, Repr

/-- The operator in the target language. -/
def ComparisonOperator.symbol : ComparisonOperator → String
  | equals => "=="
  | notEquals => "!="
  | less => "<"
  | lessEquals => "<="
  | greater => ">"
  | greaterEquals => ">="

mutual

/-- What can stand where a value is wanted: a parameter, a literal, a built-in
variable, the value of an operation, or text taken over as it is. -/
inductive Operand where
  | parameter (parameter : Parameter)
  | literal (literal : Literal)
  | builtIn (source : BuiltInVariable)
  | operation (operation : Operation)
  | raw (text : String)

/-- A node of the tree. `arithmetic` is a chain that groups to the left;
`select` appends its suffix (`.xyz`, `[i]`) to its base; the header of a
`loop` is text taken over as it is; `construct` concatenates the components of
its operands, and `convert` pads a single source. -/
inductive Operation where
  | assign (operator : AssignmentOperator) (target value : Operand)
  | declare (parameter : Parameter)
  | arithmetic (operator : ArithmeticOperator) (operands : List Operand)
  | compare (operator : ComparisonOperator) (left right : Operand)
  | select (base : Operand) (suffix : String)
  | builtIn (function : BuiltInFunction) (arguments : List Operand)
  | ifThen (condition : Operand) (body : List Operation)
  | ifElse (condition : Operand) (body alternative : List Operation)
  | loop (initial condition step : String) (body : List Operation)
  | returnValue (value : Operand)
  | returnVoid
  | call (function : ShaderFunction) (arguments : List Operand)
  | construct (type : ShaderType) (operands : List Operand)
  | convert (source : Operand) (target : ShaderType) (pad : Binary32)

/-- A function that calls refer to. `handle` tells functions apart that have
the same contents; a function without a return type returns nothing. -/
structure ShaderFunction where
  handle : Nat
  name : String
  returnType : Option ShaderType
  parameters : List Parameter
  body : List Operation

end

/-- The program of one stage: an optional default precision and the body of
the entry point. -/
structure Shader where
  stage : Stage
  precision : Option Precision
  operations : List Operation

namespace Operation

/-- Whether the operation is written with an infix operator, so that it needs
parentheses as an operand of another operator or as the base of a
selection. -/
def isInfix : Operation → Bool
  | assign .. => true
  | arithmetic .. => true
  | compare .. => true
  | _ => false

end Operation

instance : Coe Parameter Operand := ⟨.parameter⟩

instance : Coe Literal Operand := ⟨.literal⟩

instance : Coe BuiltInVariable Operand := ⟨.builtIn⟩

instance : Coe Operation Operand := ⟨.operation⟩

/-- Loop that counts `counter` from zero up to `count`, excluding it. -/
def Operation.countedLoop (counter : String) (count : Nat)
    (body : List Operation) : Operation :=
  .loop s!"int {counter} = 0" s!"{counter} < {count}" s!"{counter}++" body

end Shaderwright
