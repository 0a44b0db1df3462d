import Mathlib.Data.List.Forall2
import Shaderwright.Proofs.Formula.Evaluation

/-!
Formulas node by node. Every node of a formula is an operation on what its
sides stand for (`nodewise`), so that an arithmetic node has two operands. A
chain takes up the left spine of one operator, as far as no parentheses
interrupt it (`Gives`).
-/

namespace Shaderwright.Formula

/-! ## Formulas node by node -/

/-- The assignment that an arithmetic operator is compounded with. -/
def compound : ArithmeticOperator → AssignmentOperator
  | .add => .add
  | .subtract => .subtract
  | .multiply => .multiply
  | .divide => .divide

/-- The operand that a literal stands for. No text is one, and no minus goes
before a boolean. -/
def Constant.operand? (bindings : Bindings) (isNegative : Bool) :
    Constant → Option Operand
  | .integer spelling | .decimal spelling =>
      some (.literal (.scalar (bindings.signed isNegative spelling)))
  | .boolean value =>
      if isNegative then none else some (.literal (.boolean value))
  | .text _ => none

/-- The call of what a name stands for: `discard`, a built-in function, the
constructor of a vector or a function of the program. -/
def calledOperation? (bindings : Bindings) (name : String)
    (arguments : List Operand) : Option Operation :=
  if name = "discard" then
    if arguments = [] then some (.builtIn .discard []) else none
  else
    match builtInFunction? name, vectorWidth? name with
    | some function, _ => some (.builtIn function arguments)
    | none, some width => some (.construct width.type arguments)
    | none, none => some (.call (bindings.function name) arguments)

mutual

/-- The tree of a formula where every node is translated by itself, if it has
one. -/
def nodewise (bindings : Bindings) : Formula → Option Operand
  | .constant literal => literal.operand? bindings false
  | .path (.name identifier) => some (bindings.named identifier)
  | .path (.segments tokens) => some (bindings.path tokens)
  | .path (.qualified _) => none
  | .parenthesized inner => inner.nodewise bindings
  | .grouped inner => inner.nodewise bindings
  | .unary .negate (.constant literal) => literal.operand? bindings true
  | .unary .negate value => do
      let value ← value.nodewise bindings
      return .operation (.times (.whole (-1)) value)
  | .unary _ _ => none
  | .binary (.arithmetic operator) left right => do
      let left ← left.nodewise bindings
      let right ← right.nodewise bindings
      return .operation (.arithmetic operator [left, right])
  | .binary (.comparison operator) left right => do
      let left ← left.nodewise bindings
      let right ← right.nodewise bindings
      return .operation (.compare operator left right)
  | .binary _ _ _ => none
  | .assign target value => do
      let target ← target.nodewise bindings
      let value ← value.nodewise bindings
      return .operation (.assign .assign target value)
  | .compoundAssign (.arithmetic operator) target value => do
      let target ← target.nodewise bindings
      let value ← value.nodewise bindings
      return .operation (.assign (compound operator) target value)
  | .compoundAssign _ _ _ => none
  | .select base (.named identifier) => do
      let base ← base.nodewise bindings
      return .operation (.select base s!".{identifier}")
  | .select _ (.position _) => none
  | .index base subscript => do
      let base ← base.nodewise bindings
      return .operation (.select base s!"[{Token.textOf subscript}]")
  | .call (.path (.name name)) arguments => do
      let arguments ← nodewiseAll bindings arguments
      return .operation (← calledOperation? bindings name arguments)
  | .call _ _ => none
  | .foreign _ => none

/-- The trees of a list of formulas. -/
def nodewiseAll (bindings : Bindings) : List Formula → Option (List Operand)
  | [] => some []
  | formula :: rest => do
      let operand ← formula.nodewise bindings
      return operand :: (← nodewiseAll bindings rest)

end

/-! ## Chains -/

/-- What a chain of the operator takes up of a formula: the right sides along
its left spine, up to where another formula or a parenthesis ends it. -/
def spine (operator : ArithmeticOperator) : Formula → List Formula
  | .binary (.arithmetic other) left right =>
      if other = operator then
        left.spine operator ++ [right]
      else
        [.binary (.arithmetic other) left right]
  | formula => [formula]

mutual

/-- The parts of a formula that are arithmetic nodes of their own, each before
those below it: the chains of one operator, whole, and the negations of what
is no literal. The formula itself may be the left side of an operator. -/
def arithmeticParts (above : Option ArithmeticOperator) :
    Formula → List Formula
  | .binary (.arithmetic operator) left right =>
      (if above = some operator then []
        else [.binary (.arithmetic operator) left right]) ++
      (left.arithmeticParts (some operator) ++ right.arithmeticParts none)
  | .binary _ left right =>
      left.arithmeticParts none ++ right.arithmeticParts none
  | .assign target value | .compoundAssign _ target value =>
      target.arithmeticParts none ++ value.arithmeticParts none
  | .select base _ | .index base _ => base.arithmeticParts none
  | .call _ arguments => arithmeticPartsOfAll arguments
  | .unary _ (.constant _) => []
  | .unary operator value =>
      .unary operator value :: value.arithmeticParts none
  | .parenthesized inner | .grouped inner => inner.arithmeticParts none
  | .constant _ | .path _ | .foreign _ => []

/-- The parts of a list of formulas that are arithmetic nodes of their
own. -/
def arithmeticPartsOfAll : List Formula → List Formula
  | [] => []
  | formula :: rest =>
      formula.arithmeticParts none ++ arithmeticPartsOfAll rest

end

mutual

/-- The paths in a formula that are no plain names. -/
def paths : Formula → List (List Token)
  | .path (.segments tokens) => [tokens]
  | .binary _ left right => left.paths ++ right.paths
  | .assign target value | .compoundAssign _ target value =>
      target.paths ++ value.paths
  | .select base _ | .index base _ => base.paths
  | .call callee arguments => callee.paths ++ pathsOfAll arguments
  | .unary _ value => value.paths
  | .parenthesized inner | .grouped inner => inner.paths
  | .constant _ | .path _ | .foreign _ => []

/-- The paths in a list of formulas. -/
def pathsOfAll : List Formula → List (List Token)
  | [] => []
  | formula :: rest => formula.paths ++ pathsOfAll rest

end

section Translation

variable {bindings : Bindings}

/-- An operand is what a formula stands for, up to its chains. -/
def Denotes (bindings : Bindings) (formula : Formula) (operand : Operand) :
    Prop :=
  formula.nodewise bindings.expanded = some operand.expanded

/-- How an arithmetic node comes from one part of a formula. -/
inductive Gives (bindings : Bindings) :
    Formula → ArithmeticNode → Prop where
  | chain {operator : ArithmeticOperator} {left right : Formula}
      {operands : List Operand}
      (merged : List.Forall₂ (Denotes bindings)
        (spine operator (.binary (.arithmetic operator) left right))
        operands) :
      Gives bindings (.binary (.arithmetic operator) left right)
        ⟨operator, operands⟩
  | negation {value : Formula} {operand : Operand}
      (negated : Denotes bindings value operand) :
      Gives bindings (.unary .negate value)
        ⟨.multiply, [.whole (-1), operand]⟩

theorem spine_ne_nil (operator : ArithmeticOperator) (formula : Formula) :
    formula.spine operator ≠ [] := by
  cases formula with
  | binary other left right =>
      cases other <;> simp only [spine] <;> (try split) <;> simp
  | _ =>
      simp [spine]

theorem Gives.two_le_length {part : Formula} {node : ArithmeticNode}
    (gives : Gives bindings part node) :
    2 ≤ node.operands.length := by
  cases gives with
  | @chain operator left _ operands merged =>
      have leading : 0 < (left.spine operator).length :=
        List.length_pos_iff.mpr (spine_ne_nil operator left)
      have same := merged.length_eq
      simp only [spine, if_pos, List.length_append,
        List.length_singleton] at same
      show 2 ≤ operands.length
      omega
  | negation _ =>
      simp

end Translation

end Shaderwright.Formula
