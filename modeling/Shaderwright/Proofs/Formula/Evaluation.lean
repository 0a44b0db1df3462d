import Shaderwright.Formula.ToCode
import Shaderwright.Tree.Build

/-!
What the code of a formula builds. Running the code gives a tree whose
arithmetic nodes may be chains of any length. Expanding a tree writes each
chain as nodes of two operands that nest to the left.
-/

namespace Shaderwright

/-- The number with the other sign. -/
def Binary32.negated (value : Binary32) : Binary32 :=
  .ofMagnitude (!value.isNegative) value.magnitude

/-! ## Running code -/

namespace Formula

/-- What the words of a formula stand for where its code runs: the operands
that its variables and its other paths convert to, the numbers that its
literals spell, and the functions behind the names of its calls. -/
structure Bindings where
  named : String → Operand
  path : List Token → Operand
  number : String → Binary32
  function : String → ShaderFunction

namespace Bindings

/-- The number that a literal gives, with its sign. -/
def signed (bindings : Bindings) (isNegative : Bool) (spelling : String) :
    Binary32 :=
  if isNegative then
    (bindings.number spelling).negated
  else
    bindings.number spelling

end Bindings

mutual

/-- The operand that code builds. -/
def OperandCode.evaluate (bindings : Bindings) : OperandCode → Operand
  | .name identifier => bindings.named identifier
  | .path tokens => bindings.path tokens
  | .number isNegative spelling =>
      .literal (.scalar (bindings.signed isNegative spelling))
  | .boolean value => .literal (.boolean value)
  | .operation node => .operation (node.evaluate bindings)

/-- The operation that code builds. -/
def OperationCode.evaluate (bindings : Bindings) : OperationCode → Operation
  | .chain operator operands =>
      .arithmetic operator (evaluateAll bindings operands)
  | .negate value => .times (.whole (-1)) (value.evaluate bindings)
  | .compare operator left right =>
      .compare operator (left.evaluate bindings) (right.evaluate bindings)
  | .assign operator target value =>
      .assign operator (target.evaluate bindings) (value.evaluate bindings)
  | .select base suffix => .select (base.evaluate bindings) suffix
  | .builtIn function arguments =>
      .builtIn function (evaluateAll bindings arguments)
  | .discard => .builtIn .discard []
  | .construct width operands =>
      .construct width.type (evaluateAll bindings operands)
  | .call function arguments =>
      .call (bindings.function function) (evaluateAll bindings arguments)

/-- The operands that a list of codes builds. -/
def evaluateAll (bindings : Bindings) : List OperandCode → List Operand
  | [] => []
  | code :: rest => code.evaluate bindings :: evaluateAll bindings rest

end

/-- The tree that code builds, as an operand. -/
def Code.evaluate (bindings : Bindings) : Code → Operand
  | operand code => code.evaluate bindings
  | operation code => .operation (code.evaluate bindings)

theorem evaluateAll_eq_map (bindings : Bindings) (codes : List OperandCode) :
    evaluateAll bindings codes =
      codes.map (OperandCode.evaluate bindings) := by
  induction codes with
  | nil =>
      simp [evaluateAll]
  | cons code rest inductionHypothesis =>
      simp [evaluateAll, inductionHypothesis]

/-! ## Arithmetic nodes -/

/-- An arithmetic node that code builds. -/
structure ArithmeticNode where
  operator : ArithmeticOperator
  operands : List Operand

mutual

/-- The arithmetic nodes that code builds, each before those below it. What
the program binds to a variable is not built by the code. -/
def OperandCode.arithmeticNodes (bindings : Bindings) :
    OperandCode → List ArithmeticNode
  | .operation node => node.arithmeticNodes bindings
  | .name _ | .path _ | .number _ _ | .boolean _ => []

/-- The arithmetic nodes that the code of an operation builds. -/
def OperationCode.arithmeticNodes (bindings : Bindings) :
    OperationCode → List ArithmeticNode
  | .chain operator operands =>
      ⟨operator, evaluateAll bindings operands⟩ ::
        arithmeticNodesOfAll bindings operands
  | .negate value =>
      ⟨.multiply, [.whole (-1), value.evaluate bindings]⟩ ::
        value.arithmeticNodes bindings
  | .compare _ left right =>
      left.arithmeticNodes bindings ++ right.arithmeticNodes bindings
  | .assign _ target value =>
      target.arithmeticNodes bindings ++ value.arithmeticNodes bindings
  | .select base _ => base.arithmeticNodes bindings
  | .builtIn _ operands | .construct _ operands | .call _ operands =>
      arithmeticNodesOfAll bindings operands
  | .discard => []

/-- The arithmetic nodes that a list of codes builds. -/
def arithmeticNodesOfAll (bindings : Bindings) :
    List OperandCode → List ArithmeticNode
  | [] => []
  | code :: rest =>
      code.arithmeticNodes bindings ++ arithmeticNodesOfAll bindings rest

end

def Code.arithmeticNodes (bindings : Bindings) : Code → List ArithmeticNode
  | operand code => code.arithmeticNodes bindings
  | operation code => code.arithmeticNodes bindings

theorem arithmeticNodesOfAll_append (bindings : Bindings)
    (codes others : List OperandCode) :
    arithmeticNodesOfAll bindings (codes ++ others) =
      arithmeticNodesOfAll bindings codes ++
        arithmeticNodesOfAll bindings others := by
  induction codes with
  | nil =>
      simp [arithmeticNodesOfAll]
  | cons code rest inductionHypothesis =>
      simp [arithmeticNodesOfAll, inductionHypothesis]

end Formula

/-! ## Expanded trees -/

/-- A chain as nodes of two operands that nest to the left. Fewer than two
operands make no chain. -/
def leftNested (operator : ArithmeticOperator) : List Operand → Operation
  | first :: second :: rest =>
      rest.foldl
        (fun node next => .arithmetic operator [.operation node, next])
        (.arithmetic operator [first, second])
  | operands => .arithmetic operator operands

mutual

/-- The operand with every chain in it expanded. -/
def Operand.expanded : Operand → Operand
  | .operation node => .operation node.expanded
  | .parameter symbol => .parameter symbol
  | .literal value => .literal value
  | .builtIn source => .builtIn source
  | .raw text => .raw text

/-- The operation with every chain in it expanded. The bodies of called
functions are kept as they are. -/
def Operation.expanded : Operation → Operation
  | .assign operator target value =>
      .assign operator target.expanded value.expanded
  | .declare symbol => .declare symbol
  | .arithmetic operator operands =>
      leftNested operator (expandedOperands operands)
  | .compare operator left right =>
      .compare operator left.expanded right.expanded
  | .select base suffix => .select base.expanded suffix
  | .builtIn function arguments =>
      .builtIn function (expandedOperands arguments)
  | .ifThen condition body => .ifThen condition.expanded (expandedBody body)
  | .ifElse condition body alternative =>
      .ifElse condition.expanded (expandedBody body)
        (expandedBody alternative)
  | .loop initial condition step body =>
      .loop initial condition step (expandedBody body)
  | .returnValue value => .returnValue value.expanded
  | .returnVoid => .returnVoid
  | .call function arguments => .call function (expandedOperands arguments)
  | .construct type operands => .construct type (expandedOperands operands)
  | .convert source target pad => .convert source.expanded target pad

/-- The operands of a list, expanded. -/
def expandedOperands : List Operand → List Operand
  | [] => []
  | operand :: rest => operand.expanded :: expandedOperands rest

/-- The operations of a body, expanded. -/
def expandedBody : List Operation → List Operation
  | [] => []
  | node :: rest => node.expanded :: expandedBody rest

end

/-- The same words, standing for expanded trees. -/
def Formula.Bindings.expanded (bindings : Bindings) : Bindings where
  named := fun identifier => (bindings.named identifier).expanded
  path := fun tokens => (bindings.path tokens).expanded
  number := bindings.number
  function := bindings.function

theorem expandedOperands_eq_map (operands : List Operand) :
    expandedOperands operands = operands.map Operand.expanded := by
  induction operands with
  | nil =>
      simp [expandedOperands]
  | cons operand rest inductionHypothesis =>
      simp [expandedOperands, inductionHypothesis]

theorem leftNested_pair (operator : ArithmeticOperator)
    (left right : Operand) :
    leftNested operator [left, right] =
      .arithmetic operator [left, right] := rfl

/-- One operand more is one node more, on top. -/
theorem leftNested_append (operator : ArithmeticOperator)
    {operands : List Operand} (wide : 2 ≤ operands.length)
    (last : Operand) :
    leftNested operator (operands ++ [last]) =
      .arithmetic operator
        [.operation (leftNested operator operands), last] := by
  match operands, wide with
  | first :: second :: rest, _ =>
      simp [leftNested, List.foldl_append]

end Shaderwright
