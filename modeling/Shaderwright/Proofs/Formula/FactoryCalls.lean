import Mathlib.Data.List.Forall2
import Shaderwright.Proofs.Formula.Evaluation
import Shaderwright.Proofs.Formula.TextLiterals

/-!
The code of a formula as the host language runs it: its tokens are read as
expressions, and each call of a factory makes the operation that the factory is
for. What the tokens of code evaluate to is the tree that the code builds
(`Code.evaluated?_tokens`).
-/

namespace Shaderwright.Formula

/-! ## Values -/

/-- What an expression evaluates to. The variable behind a reference and what a
path names are those of the program. -/
inductive Value where
  | reference (identifier : String)
  | path (tokens : List Token)
  | number (value : Binary32)
  | boolean (value : Bool)
  | text (content : String)
  | operand (operand : Operand)
  | operands (operands : List Operand)
  | operation (operation : Operation)

namespace Value

/-- The operand that a value is converted to. -/
def toOperand? (bindings : Bindings) : Value → Option Operand
  | reference identifier => some (bindings.named identifier)
  | path tokens => some (bindings.path tokens)
  | number value => some (.literal (.scalar value))
  | boolean value => some (.literal (.boolean value))
  | .operand given => some given
  | .operation made => some (.operation made)
  | text _ | operands _ => none

/-- The operand that a value is, without any conversion. -/
def operand? : Value → Option Operand
  | .operand given => some given
  | _ => none

end Value

/-! ## Factories -/

/-- The names in a path that begins at the root of all names. Angle brackets
count as names. -/
def rootedNames? : List Token → Option (List String)
  | [] => some []
  | .mark ':' true :: .mark ':' false :: .word name :: rest =>
      (name :: ·) <$> rootedNames? rest
  | .mark ':' true :: .mark ':' false :: .mark '<' false :: rest =>
      ("<" :: ·) <$> rootedNames? rest
  | .mark '>' false :: rest => (">" :: ·) <$> rootedNames? rest
  | _ => none

/-- The built-in function that a path names. -/
def namedFunction? (tokens : List Token) : Option BuiltInFunction :=
  match rootedNames? tokens with
  | some ["boxel_shader", "BuiltInFun", name] =>
      BuiltInFunction.all.find? fun function => function.name = name
  | _ => none

/-- The factories of two operands. -/
def pairFactory? : String → Option (Operand → Operand → Operation)
  | "assign" => some (.assign .assign)
  | "add_to" => some (.assign .add)
  | "subtract_to" => some (.assign .subtract)
  | "multiply_to" => some (.assign .multiply)
  | "divide_to" => some (.assign .divide)
  | "add" => some fun left right => .arithmetic .add [left, right]
  | "subtract" => some fun left right => .arithmetic .subtract [left, right]
  | "multiply" => some fun left right => .arithmetic .multiply [left, right]
  | "divide" => some fun left right => .arithmetic .divide [left, right]
  | "equals" => some (.compare .equals)
  | "not_equals" => some (.compare .notEquals)
  | "less" => some (.compare .less)
  | "less_equals" => some (.compare .lessEquals)
  | "greater" => some (.compare .greater)
  | "greater_equals" => some (.compare .greaterEquals)
  | _ => none

/-- The factories of any number of operands. -/
def listFactory? : String → Option (List Operand → Operation)
  | "add_all" => some (.arithmetic .add)
  | "subtract_all" => some (.arithmetic .subtract)
  | "multiply_all" => some (.arithmetic .multiply)
  | "divide_all" => some (.arithmetic .divide)
  | "vector2" => some (.construct .vector2)
  | "vector3" => some (.construct .vector3)
  | "vector4" => some (.construct .vector4)
  | _ => none

/-- The operation that a factory makes of its arguments. -/
def made? (bindings : Bindings) : String → List Value → Option Operation
  | "discard", [] => some (.builtIn .discard [])
  | "selection", [base, .text suffix] => do
      return .select (← base.toOperand? bindings) suffix
  | "builtin", [.path function, .operands arguments] => do
      return .builtIn (← namedFunction? function) arguments
  | "call", [.reference function, .operands arguments] =>
      some (.call (bindings.function function) arguments)
  | factory, [.operands operands] => do
      return (← listFactory? factory) operands
  | factory, [left, right] => do
      let left ← left.toOperand? bindings
      let right ← right.toOperand? bindings
      return (← pairFactory? factory) left right
  | _, _ => none

/-! ## Evaluation -/

/-- A token with what is inside of it if it is a group: the value of the one
expression there, and the values of the expressions that commas separate. -/
structure Piece where
  token : Token
  single : Option Value
  listed : Option (List Value)

def isComma : Token → Bool
  | .mark ',' _ => true
  | _ => false

/-- The value of a call, given the names of what is called and the brackets
with the arguments. -/
def called? (bindings : Bindings) (arguments : Piece) :
    List String → Option Value
  | ["boxel_shader", "Operand", "from"] => do
      let value ← arguments.single
      return .operand (← value.toOperand? bindings)
  | ["std", "vec", "Vec", "<", "boxel_shader", "Operand", ">", "from"] =>
      match arguments.single with
      | some (.operands operands) => some (.operands operands)
      | _ => none
  | ["boxel_shader", "Operation", factory] => do
      return .operation (← made? bindings factory (← arguments.listed))
  | _ => none

/-- The number with digits in front of its type. -/
def wholeNumber? (value : Nat) : List Char → Option Binary32
  | ['f', '3', '2'] => some (.ofInt value)
  | c :: rest =>
      if c.isDigit then
        wholeNumber? (10 * value + (c.toNat - '0'.toNat)) rest
      else
        none
  | [] => none

def number? (bindings : Bindings) : List Token → Option Binary32
  | [.literal .decimal spelling] => wholeNumber? 0 spelling.toList
  | [.group .parentheses
      [.literal .decimal spelling, .word "as", .word "f32"]] =>
      some (bindings.number spelling)
  | .mark '-' _ :: tokens => Binary32.negated <$> number? bindings tokens
  | _ => none

/-- The value of an expression without calls. -/
def simpleValue? (bindings : Bindings) : List Token → Option Value
  | [.mark '&' _, .word identifier] => some (.reference identifier)
  | [.word "true"] => some (.boolean true)
  | [.word "false"] => some (.boolean false)
  | [.literal .text spelling] => .text <$> Token.literalText? spelling
  | tokens => .number <$> number? bindings tokens

/-- Whether tokens end as a path of several steps does, given in reverse: with
a name behind a double colon, or with the arguments of a step. -/
def endsPath : List Token → Bool
  | .word _ :: .mark ':' false :: .mark ':' true :: _ => true
  | .mark '>' _ :: _ => true
  | _ => false

def isPath (tokens : List Token) : Bool :=
  endsPath tokens.reverse

/-- The value of brackets and what stands before them. -/
def bracketValue? (bindings : Bindings) (callee : List Token)
    (arguments : Piece) : Option Value :=
  match callee, arguments.token with
  | [], .group .brackets _ => do
      return .operands (← (← arguments.listed).mapM Value.operand?)
  | callee, .group .parentheses _ =>
      rootedNames? callee >>= called? bindings arguments
  | _, _ => none

/-- The value of an expression. -/
def value? (bindings : Bindings) (pieces : List Piece) : Option Value :=
  let tokens := pieces.map Piece.token
  if isPath tokens then
    some (.path tokens)
  else
    simpleValue? bindings tokens <|> do
      bracketValue? bindings tokens.dropLast (← pieces.getLast?)

/-- The values of the expressions that commas separate. -/
def values? (bindings : Bindings) (pieces : List Piece) :
    Option (List Value) :=
  if pieces.isEmpty then
    some []
  else
    (pieces.splitOnP (isComma ·.token)).mapM (value? bindings)

mutual

def piece (bindings : Bindings) : Token → Piece
  | .group delimiter tokens =>
      ⟨.group delimiter tokens, value? bindings (pieces bindings tokens),
        values? bindings (pieces bindings tokens)⟩
  | token => ⟨token, none, none⟩

def pieces (bindings : Bindings) : List Token → List Piece
  | [] => []
  | token :: rest => piece bindings token :: pieces bindings rest

end

section Calls

variable {bindings : Bindings}

/-! ## Pieces -/

@[simp] theorem token_piece (token : Token) :
    (piece bindings token).token = token := by
  cases token <;> rfl

theorem pieces_eq_map (tokens : List Token) :
    pieces bindings tokens = tokens.map (piece bindings) := by
  induction tokens with
  | nil =>
      rfl
  | cons token rest inductionHypothesis =>
      rw [pieces, inductionHypothesis, List.map_cons]

theorem pieces_append (tokens others : List Token) :
    pieces bindings (tokens ++ others) =
      pieces bindings tokens ++ pieces bindings others := by
  simp [pieces_eq_map]

theorem map_token_pieces (tokens : List Token) :
    (pieces bindings tokens).map Piece.token = tokens := by
  simp [pieces_eq_map, Function.comp_def]

/-! ## Arguments -/

/-- Tokens have a value. -/
def Evaluates (bindings : Bindings) (tokens : List Token) (value : Value) :
    Prop :=
  value? bindings (pieces bindings tokens) = some value

/-- Tokens have a value, and no comma splits them. -/
structure IsArgument (bindings : Bindings) (tokens : List Token)
    (value : Value) : Prop where
  evaluates : Evaluates bindings tokens value
  ne_nil : tokens ≠ []
  unsplit : ∀ token ∈ tokens, isComma token = false

/-- Between the commas stand the arguments. -/
private theorem mapM_splitOnP_separated :
    ∀ {arguments : List (List Token)} {values : List Value},
      List.Forall₂ (IsArgument bindings) arguments values →
        arguments ≠ [] →
          ((pieces bindings (separated arguments)).splitOnP
            (isComma ·.token)).mapM (value? bindings) = some values
  | _, _, .nil, nonempty => absurd rfl nonempty
  | [tokens], _, .cons argument .nil, _ => by
      have alone : (pieces bindings tokens).splitOnP (isComma ·.token) =
          [pieces bindings tokens] :=
        List.splitOnP_eq_singleton (by
          simpa [pieces_eq_map] using argument.unsplit)
      rw [separated, alone, List.mapM_cons, argument.evaluates]
      rfl
  | tokens :: next :: rest, _, .cons argument (.cons second others), _ => by
      have further := mapM_splitOnP_separated (.cons second others)
        (List.cons_ne_nil next rest)
      have plain : ∀ piece ∈ pieces bindings tokens,
          isComma piece.token = false := by
        simpa [pieces_eq_map] using argument.unsplit
      rw [separated, pieces_append, pieces,
        List.splitOnP_append_cons_of_forall_mem plain _ rfl, List.mapM_cons,
        argument.evaluates, further]
      rfl

/-- Arguments have their values wherever they are listed. -/
theorem values?_separated {arguments : List (List Token)}
    {values : List Value}
    (given : List.Forall₂ (IsArgument bindings) arguments values) :
    values? bindings (pieces bindings (separated arguments)) =
      some values := by
  cases given with
  | nil =>
      rfl
  | @cons tokens _ rest _ argument others =>
      have filled : separated (tokens :: rest) ≠ [] := by
        cases rest with
        | nil =>
            exact argument.ne_nil
        | cons _ _ =>
            simp [separated]
      rw [values?, if_neg (by simpa [pieces_eq_map] using filled)]
      exact mapM_splitOnP_separated (.cons argument others)
        (List.cons_ne_nil tokens rest)

/-! ## Calls -/

private theorem isComma_of_rootedNames? {path : List Token}
    {names : List String} (named : rootedNames? path = some names) :
    ∀ token ∈ path, isComma token = false := by
  fun_induction rootedNames? path generalizing names with
  | case1 =>
      simp
  | case2 _ _ inductionHypothesis | case3 _ inductionHypothesis
  | case4 _ inductionHypothesis =>
      obtain ⟨others, read, _⟩ := Option.map_eq_some_iff.mp named
      simpa [isComma] using inductionHypothesis read
  | case5 =>
      simp at named

private theorem simpleValue?_of_rootedNames? {path : List Token}
    {name : String} {names : List String} (inside : List Token)
    (named : rootedNames? path = some (name :: names)) :
    simpleValue? bindings (path ++ [.group .parentheses inside]) = none := by
  unfold rootedNames? at named
  split at named
  all_goals
    simp_all [simpleValue?, number?]

/-- A call evaluates to what is called for. -/
private theorem isArgument_call {path inside : List Token}
    {names : List String} {value : Value}
    (named : rootedNames? path = some names)
    (called : called? bindings
      (piece bindings (.group .parentheses inside)) names = some value) :
    IsArgument bindings (path ++ [.group .parentheses inside]) value := by
  refine ⟨?_, by simp, ?_⟩
  · cases names with
    | nil =>
        simp [called?] at called
    | cons name names =>
        have noPath : isPath (path ++ [.group .parentheses inside]) =
            false := by
          simp [isPath, endsPath]
        rw [Evaluates, value?, map_token_pieces, noPath,
          simpleValue?_of_rootedNames? inside named]
        simp [pieces_eq_map, bracketValue?, named, called]
  · rw [List.forall_mem_append]
    exact ⟨isComma_of_rootedNames? named, by simp [isComma]⟩

/-- An operand made from an expression. -/
theorem isArgument_operandFrom {tokens : List Token} {value : Value}
    {operand : Operand} (evaluates : Evaluates bindings tokens value)
    (converted : value.toOperand? bindings = some operand) :
    IsArgument bindings (operandFrom tokens) (.operand operand) := by
  refine isArgument_call rfl ?_
  have single : value? bindings (pieces bindings tokens) = some value :=
    evaluates
  simp [called?, piece, single, converted]

/-- An operation made by a factory. -/
theorem isArgument_operationBy {factory : String}
    {arguments : List (List Token)} {values : List Value}
    {operation : Operation}
    (given : List.Forall₂ (IsArgument bindings) arguments values)
    (made : made? bindings factory values = some operation) :
    IsArgument bindings (operationBy factory arguments)
      (.operation operation) := by
  refine isArgument_call rfl ?_
  simp [called?, piece, values?_separated given, made]

private theorem mapM_operand? (operands : List Operand) :
    operands.mapM (Value.operand? ∘ Value.operand) = some operands := by
  induction operands with
  | nil =>
      rfl
  | cons operand rest inductionHypothesis =>
      rw [List.mapM_cons, inductionHypothesis]
      rfl

/-- Operands in a list. -/
theorem isArgument_operandList {arguments : List (List Token)}
    {operands : List Operand}
    (given : List.Forall₂ (IsArgument bindings) arguments
      (operands.map .operand)) :
    IsArgument bindings (operandList arguments) (.operands operands) := by
  refine isArgument_call rfl ?_
  have array : value? bindings (pieces bindings
      [.group .brackets (separated arguments)]) =
        some (.operands operands) := by
    simp [value?, pieces, piece, isPath, endsPath, simpleValue?, number?,
      bracketValue?, values?_separated given, mapM_operand?]
  simp [called?, piece, array]

/-! ## Words -/

theorem isArgument_reference (identifier : String) :
    IsArgument bindings [.mark '&' false, .word identifier]
      (.reference identifier) where
  evaluates := rfl
  ne_nil := by simp
  unsplit := by simp [isComma]

theorem isArgument_quoting (text : String) :
    IsArgument bindings [Token.quoting text] (.text text) := by
  obtain ⟨spelling, quoted, read⟩ := Token.exists_spelling_of_quoting text
  rw [quoted]
  refine ⟨?_, by simp, by simp [isComma]⟩
  simp [Evaluates, value?, pieces, piece, isPath, endsPath, simpleValue?, read]

theorem negated_one : (Binary32.ofInt 1).negated = .ofInt (-1) := by
  decide

theorem isArgument_minusOne :
    IsArgument bindings [.mark '-' false, .literal .decimal "1f32"]
      (.number (.ofInt (-1))) where
  evaluates := by
    rw [← negated_one]
    rfl
  ne_nil := by simp
  unsplit := by simp [isComma]

theorem namedFunction?_functionName (function : BuiltInFunction) :
    namedFunction?
      (rootPath ["boxel_shader", "BuiltInFun", functionName function]) =
        some function := by
  cases function <;> rfl

theorem isArgument_functionName (function : BuiltInFunction) :
    IsArgument bindings
      (rootPath ["boxel_shader", "BuiltInFun", functionName function])
      (.path
        (rootPath ["boxel_shader", "BuiltInFun", functionName function])) where
  evaluates := rfl
  ne_nil := by simp [rootPath, Token.operator]
  unsplit := by simp [rootPath, Token.operator, isComma]

theorem evaluates_path {tokens : List Token} (spelled : isPath tokens) :
    Evaluates bindings tokens (.path tokens) := by
  rw [Evaluates, value?, map_token_pieces, if_pos spelled]

theorem evaluates_numberTokens (isNegative : Bool) (spelling : String) :
    Evaluates bindings (numberTokens isNegative spelling)
      (.number (bindings.signed isNegative spelling)) := by
  cases isNegative <;> rfl

theorem evaluates_boolean (value : Bool) :
    Evaluates bindings [.word (if value then "true" else "false")]
      (.boolean value) := by
  cases value <;> rfl

end Calls

/-! ## Code -/

mutual

/-- The paths of the program in code, other than the names of variables. -/
def OperandCode.paths : OperandCode → List (List Token)
  | .path tokens => [tokens]
  | .operation node => node.paths
  | .name _ | .number _ _ | .boolean _ => []

def OperationCode.paths : OperationCode → List (List Token)
  | .chain _ operands | .builtIn _ operands | .construct _ operands
  | .call _ operands => pathsOfCodes operands
  | .compare _ first second | .assign _ first second =>
      first.paths ++ second.paths
  | .negate base | .select base _ => base.paths
  | .discard => []

def pathsOfCodes : List OperandCode → List (List Token)
  | [] => []
  | code :: rest => code.paths ++ pathsOfCodes rest

end

theorem pathsOfCodes_append (codes others : List OperandCode) :
    pathsOfCodes (codes ++ others) =
      pathsOfCodes codes ++ pathsOfCodes others := by
  induction codes with
  | nil =>
      rfl
  | cons code rest inductionHypothesis =>
      simp [pathsOfCodes, inductionHypothesis]

def Code.paths : Code → List (List Token)
  | operand code => code.paths
  | operation code => code.paths

section Code

variable {bindings : Bindings}

mutual

/-- By induction on the code: what its parts evaluate to is converted or handed
to the factory. -/
private theorem isArgument_operand :
    ∀ code : OperandCode, (∀ path ∈ code.paths, isPath path) →
      IsArgument bindings code.tokens (.operand (code.evaluate bindings))
  | .name identifier, _ =>
      isArgument_operandFrom (isArgument_reference identifier).evaluates rfl
  | .path tokens, spelled =>
      isArgument_operandFrom
        (evaluates_path (spelled tokens (List.mem_singleton_self tokens))) rfl
  | .number isNegative spelling, _ =>
      isArgument_operandFrom (evaluates_numberTokens isNegative spelling) rfl
  | .boolean value, _ =>
      isArgument_operandFrom (evaluates_boolean value) rfl
  | .operation node, spelled =>
      isArgument_operandFrom (isArgument_operation node spelled).evaluates rfl

private theorem isArgument_operation :
    ∀ code : OperationCode, (∀ path ∈ code.paths, isPath path) →
      IsArgument bindings code.tokens (.operation (code.evaluate bindings))
  | .chain operator operands, spelled => by
      have list := isArgument_operandList
        (isArgument_operands operands spelled)
      exact isArgument_operationBy (.cons list .nil) (by
        cases operator <;> rfl)
  | .negate value, spelled =>
      isArgument_operationBy
        (.cons isArgument_minusOne
          (.cons (isArgument_operand value spelled) .nil)) rfl
  | .compare operator left right, spelled => by
      obtain ⟨leftSpelled, rightSpelled⟩ := List.forall_mem_append.mp spelled
      exact isArgument_operationBy
        (.cons (isArgument_operand left leftSpelled)
          (.cons (isArgument_operand right rightSpelled) .nil)) (by
        cases operator <;> rfl)
  | .assign operator target value, spelled => by
      obtain ⟨targetSpelled, valueSpelled⟩ := List.forall_mem_append.mp spelled
      exact isArgument_operationBy
        (.cons (isArgument_operand target targetSpelled)
          (.cons (isArgument_operand value valueSpelled) .nil)) (by
        cases operator <;> rfl)
  | .select base suffix, spelled =>
      isArgument_operationBy
        (.cons (isArgument_operand base spelled)
          (.cons (isArgument_quoting suffix) .nil)) rfl
  | .builtIn function arguments, spelled => by
      have list := isArgument_operandList
        (isArgument_operands arguments spelled)
      exact isArgument_operationBy
        (.cons (isArgument_functionName function) (.cons list .nil)) (by
        simp [made?, namedFunction?_functionName, OperationCode.evaluate])
  | .discard, _ =>
      isArgument_operationBy .nil rfl
  | .construct width operands, spelled => by
      have list := isArgument_operandList
        (isArgument_operands operands spelled)
      exact isArgument_operationBy (.cons list .nil) (by
        cases width <;> rfl)
  | .call function arguments, spelled => by
      have list := isArgument_operandList
        (isArgument_operands arguments spelled)
      exact isArgument_operationBy
        (.cons (isArgument_reference function) (.cons list .nil)) rfl

private theorem isArgument_operands :
    ∀ codes : List OperandCode, (∀ path ∈ pathsOfCodes codes, isPath path) →
      List.Forall₂ (IsArgument bindings) (tokensOfAll codes)
        ((evaluateAll bindings codes).map .operand)
  | [], _ => .nil
  | code :: rest, spelled => by
      obtain ⟨first, others⟩ := List.forall_mem_append.mp spelled
      exact .cons (isArgument_operand code first)
        (isArgument_operands rest others)

end

end Code

end Shaderwright.Formula
