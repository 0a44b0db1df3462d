import Shaderwright.Formula

/-!
Code that builds operands and operations: calls of the factories that the
shader library offers to programs in the host language.
-/

namespace Shaderwright.Formula

inductive VectorWidth where
  | two
  | three
  | four
deriving DecidableEq, Repr

namespace VectorWidth

def type : VectorWidth → ShaderType
  | two => .vector2
  | three => .vector3
  | four => .vector4

end VectorWidth

mutual

/-- Code that builds an operand: from a variable of the program, from a path,
from a number or a boolean, or from an operation. -/
inductive OperandCode where
  | name (identifier : String)
  | path (tokens : List Token)
  | number (isNegative : Bool) (spelling : String)
  | boolean (value : Bool)
  | operation (operation : OperationCode)

/-- Code that builds an operation. `negate` multiplies by minus one, and `call`
calls the function in a variable of the program. -/
inductive OperationCode where
  | chain (operator : ArithmeticOperator) (operands : List OperandCode)
  | negate (value : OperandCode)
  | compare (operator : ComparisonOperator) (left right : OperandCode)
  | assign (operator : AssignmentOperator) (target value : OperandCode)
  | select (base : OperandCode) (suffix : String)
  | builtIn (function : BuiltInFunction) (arguments : List OperandCode)
  | discard
  | construct (width : VectorWidth) (operands : List OperandCode)
  | call (function : String) (arguments : List OperandCode)

end

/-- The code of a formula. -/
inductive Code where
  | operand (operand : OperandCode)
  | operation (operation : OperationCode)

/-! ## Words -/

def rootPath (names : List String) : List Token :=
  names.flatMap fun name => Token.operator [':', ':'] ++ [.word name]

def operandType : List Token :=
  rootPath ["boxel_shader", "Operand"]

def separated : List (List Token) → List Token
  | [] => []
  | [tokens] => tokens
  | tokens :: next :: rest =>
      tokens ++ .mark ',' false :: separated (next :: rest)

def operandList (operands : List (List Token)) : List Token :=
  rootPath ["std", "vec", "Vec"] ++ Token.operator [':', ':'] ++
    .mark '<' false :: operandType ++ .mark '>' false ::
      rootPath ["from"] ++
    [.group .parentheses [.group .brackets (separated operands)]]

/-- The conversion of tokens to an operand. -/
def operandFrom (tokens : List Token) : List Token :=
  operandType ++ rootPath ["from"] ++ [.group .parentheses tokens]

/-- The call of a factory of operations. -/
def operationBy (factory : String) (arguments : List (List Token)) :
    List Token :=
  rootPath ["boxel_shader", "Operation", factory] ++
    [.group .parentheses (separated arguments)]

def chainFactory : ArithmeticOperator → String
  | .add => "add_all"
  | .subtract => "subtract_all"
  | .multiply => "multiply_all"
  | .divide => "divide_all"

def comparisonFactory : ComparisonOperator → String
  | .equals => "equals"
  | .notEquals => "not_equals"
  | .less => "less"
  | .lessEquals => "less_equals"
  | .greater => "greater"
  | .greaterEquals => "greater_equals"

def assignmentFactory : AssignmentOperator → String
  | .assign => "assign"
  | .add => "add_to"
  | .subtract => "subtract_to"
  | .multiply => "multiply_to"
  | .divide => "divide_to"

def VectorWidth.factory : VectorWidth → String
  | two => "vector2"
  | three => "vector3"
  | four => "vector4"

/-- The name of a built-in function in the host language. -/
def functionName : BuiltInFunction → String
  | .abs => "Abs"
  | .fract => "Fract"
  | .fwidth => "FWidth"
  | .normalize => "Normalize"
  | .min => "Min"
  | .max => "Max"
  | .distance => "Distance"
  | .pow => "Pow"
  | .mix => "Mix"
  | .dot => "Dot"
  | .length => "Length"
  | .clamp => "Clamp"
  | .discard => "Discard"
  | .sqrt => "Sqrt"
  | .sin => "Sin"
  | .cos => "Cos"
  | .floor => "Floor"
  | .step => "Step"
  | .smoothStep => "SmoothStep"
  | .reflect => "Reflect"
  | .cross => "Cross"
  | .texture2D => "Texture2D"

/-- The number that a literal gives, with its sign. -/
def numberTokens (isNegative : Bool) (spelling : String) : List Token :=
  (if isNegative then [.mark '-' false] else []) ++
    [ .group .parentheses
        [.literal .decimal spelling, .word "as", .word "f32"] ]

/-! ## Tokens -/

mutual

def OperandCode.tokens : OperandCode → List Token
  | .name identifier => operandFrom [.mark '&' false, .word identifier]
  | .path tokens => operandFrom tokens
  | .number isNegative spelling =>
      operandFrom (numberTokens isNegative spelling)
  | .boolean value => operandFrom [.word (if value then "true" else "false")]
  | .operation operation => operandFrom operation.tokens

def OperationCode.tokens : OperationCode → List Token
  | .chain operator operands =>
      operationBy (chainFactory operator) [operandList (tokensOfAll operands)]
  | .negate value =>
      operationBy "multiply"
        [[.mark '-' false, .literal .decimal "1f32"], value.tokens]
  | .compare operator left right =>
      operationBy (comparisonFactory operator) [left.tokens, right.tokens]
  | .assign operator target value =>
      operationBy (assignmentFactory operator) [target.tokens, value.tokens]
  | .select base suffix =>
      operationBy "selection" [base.tokens, [Token.quoting suffix]]
  | .builtIn function arguments =>
      operationBy "builtin"
        [ rootPath ["boxel_shader", "BuiltInFun", functionName function],
          operandList (tokensOfAll arguments) ]
  | .discard => operationBy "discard" []
  | .construct width operands =>
      operationBy width.factory [operandList (tokensOfAll operands)]
  | .call function arguments =>
      operationBy "call"
        [ [.mark '&' false, .word function],
          operandList (tokensOfAll arguments) ]

def tokensOfAll : List OperandCode → List (List Token)
  | [] => []
  | operand :: rest => operand.tokens :: tokensOfAll rest

end

namespace Code

def tokens : Code → List Token
  | operand code => code.tokens
  | operation code => code.tokens

def text (code : Code) : String :=
  Token.textOf code.tokens

end Code

end Shaderwright.Formula
