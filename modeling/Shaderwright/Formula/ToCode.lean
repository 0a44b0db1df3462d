import Shaderwright.Formula.Code

/-!
The code that builds what a formula describes. Parentheses and groups leave no
trace of their own; the operands of a chain of one arithmetic operator are
collected as long as the chain goes on to the left.
-/

namespace Shaderwright.Formula

/-- What a formula holds that describes no shader operation. -/
inductive Unsupported where
  | operator
  | unaryOperator
  | literal
  | singleOperand
  | tupleIndexing
  | callee
  | discardArguments
  | expression
deriving DecidableEq, Repr

namespace Unsupported

def subject : Unsupported → String
  | operator => "this operator"
  | unaryOperator => "this unary operator"
  | literal => "this literal"
  | singleOperand => "a single operand"
  | tupleIndexing => "tuple indexing"
  | callee => "calling this expression"
  | discardArguments => "passing arguments to discard"
  | expression => "this expression"

def message (fault : Unsupported) : String :=
  fault.subject ++ " is not supported in op!"

end Unsupported

/-! ## Names -/

/-- The built-in functions that formulas know, by the name they call them. -/
def builtInFunction? : String → Option BuiltInFunction
  | "abs" => some .abs
  | "fract" => some .fract
  | "fwidth" => some .fwidth
  | "normalize" => some .normalize
  | "min" => some .min
  | "max" => some .max
  | "distance" => some .distance
  | "pow" => some .pow
  | "mix" => some .mix
  | "dot" => some .dot
  | "length" => some .length
  | "clamp" => some .clamp
  | "sqrt" => some .sqrt
  | "sin" => some .sin
  | "cos" => some .cos
  | "floor" => some .floor
  | "step" => some .step
  | "smoothstep" => some .smoothStep
  | "reflect" => some .reflect
  | "cross" => some .cross
  | "texture2d" => some .texture2D
  | _ => none

/-- The vectors that formulas construct, by the name of the constructor. -/
def vectorWidth? : String → Option VectorWidth
  | "vec2" => some .two
  | "vec3" => some .three
  | "vec4" => some .four
  | _ => none

/-- The assignment that applies an operator first. -/
def BinaryOperator.assignment? : BinaryOperator → Option AssignmentOperator
  | arithmetic .add => some .add
  | arithmetic .subtract => some .subtract
  | arithmetic .multiply => some .multiply
  | arithmetic .divide => some .divide
  | _ => none

def calleeName? : Formula → Option String
  | .path (.name identifier) => some identifier
  | _ => none

def callCode (name : String) (arguments : List OperandCode) :
    OperationCode :=
  match builtInFunction? name, vectorWidth? name with
  | some function, _ => .builtIn function arguments
  | none, some width => .construct width arguments
  | none, none => .call name arguments

/-! ## Operands and operations -/

/-- Whether a formula describes an operand rather than an operation. -/
def isOperand : Formula → Bool
  | .constant _ => true
  | .path _ => true
  | .parenthesized inner => inner.isOperand
  | .grouped inner => inner.isOperand
  | .unary .negate (.constant _) => true
  | _ => false

/-- The operand of a literal, which a minus may precede. -/
def constantCode (isNegative : Bool) : Constant →
    Except Unsupported OperandCode
  | .integer spelling => .ok (.number isNegative spelling)
  | .decimal spelling => .ok (.number isNegative spelling)
  | .boolean value =>
      if isNegative then .error .literal else .ok (.boolean value)
  | .text _ => .error .literal

/-- The operand of a formula, given what it is as an operation. -/
def operandCode (asOperation : Except Unsupported OperationCode) :
    Formula → Except Unsupported OperandCode
  | .constant literal => constantCode false literal
  | .unary .negate (.constant literal) => constantCode true literal
  | .path (.name identifier) => .ok (.name identifier)
  | .path (.segments tokens) => .ok (.path tokens)
  | .parenthesized inner => operandCode asOperation inner
  | .grouped inner => operandCode asOperation inner
  | _ => .operation <$> asOperation

/-- Whether a formula is a chain of the given operator, without parentheses
around it. -/
def isChain (operator : ArithmeticOperator) : Formula → Bool
  | .binary (.arithmetic other) _ _ => other = operator
  | _ => false

/-- The operands that the left side of an operator contributes to its chain,
given what that side is as an operation: all of them if it is a chain of the
same operator. -/
def leadingOperands (operator : ArithmeticOperator)
    (asOperation : Except Unsupported OperationCode) (left : Formula) :
    Except Unsupported (List OperandCode) :=
  if left.isChain operator then
    asOperation.map fun
      | .chain _ operands => operands
      | operation => [.operation operation]
  else do
    return [← operandCode asOperation left]

mutual

def operationCode : Formula → Except Unsupported OperationCode
  | .binary (.arithmetic operator) left right => do
      let leading ← leadingOperands operator left.operationCode left
      let last ← operandCode right.operationCode right
      return .chain operator (leading ++ [last])
  | .binary (.comparison operator) left right => do
      let left ← operandCode left.operationCode left
      let right ← operandCode right.operationCode right
      return .compare operator left right
  | .binary _ _ _ => .error .operator
  | .assign target value => do
      let target ← operandCode target.operationCode target
      let value ← operandCode value.operationCode value
      return .assign .assign target value
  | .compoundAssign operator target value =>
      match operator.assignment? with
      | none => .error .operator
      | some operator => do
          let target ← operandCode target.operationCode target
          let value ← operandCode value.operationCode value
          return .assign operator target value
  | .select _ (.position _) => .error .tupleIndexing
  | .select base (.named identifier) => do
      let base ← operandCode base.operationCode base
      return .select base ("." ++ identifier)
  | .index base subscript => do
      let base ← operandCode base.operationCode base
      return .select base ("[" ++ Token.textOf subscript ++ "]")
  | .call callee arguments =>
      match calleeName? callee with
      | none => .error .callee
      | some "discard" =>
          if arguments.isEmpty then .ok .discard else .error .discardArguments
      | some name => callCode name <$> operandCodes arguments
  | .unary .negate operand => do
      let value ← operandCode operand.operationCode operand
      return .negate value
  | .unary _ _ => .error .unaryOperator
  | .parenthesized inner => inner.operationCode
  | .grouped inner => inner.operationCode
  | .constant _ => .error .singleOperand
  | .path _ => .error .singleOperand
  | .foreign _ => .error .expression

def operandCodes : List Formula → Except Unsupported (List OperandCode)
  | [] => .ok []
  | formula :: rest => do
      let operand ← operandCode formula.operationCode formula
      return operand :: (← operandCodes rest)

end

/-- The code of a formula: that of an operand if it is one, and that of an
operation otherwise. -/
def code (formula : Formula) : Except Unsupported Code :=
  if formula.isOperand then
    .operand <$> operandCode formula.operationCode formula
  else
    .operation <$> formula.operationCode

end Shaderwright.Formula
