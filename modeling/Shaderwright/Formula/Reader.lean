import Shaderwright.Formula.Grammar.Statements
import Shaderwright.Formula.Token.Reader

/-!
Reading formulas from text.
-/

namespace Shaderwright.Formula

def Grammar.step (grammar : Grammar) : Grammar where
  bound := grammar.bound
  expression := grammar.expressionStep
  leading := grammar.leadingStep
  unary := grammar.unaryStep
  continuation := grammar.continuationFrom
  type := grammar.typeStep
  pattern := grammar.patternStep
  statements := grammar.statementsStep

/-- The grammar for formulas that nest at most so many levels deep, with at
most `bound` repetitions. -/
def Grammar.ofDepth (bound : Nat) : Nat → Grammar
  | 0 => .empty bound
  | depth + 1 => (ofDepth bound depth).step

/-- The formula that the tokens are, if they are exactly one. -/
def ofTokens? (tokens : List Token) : Option Formula :=
  let count := Token.count tokens
  let grammar := Grammar.ofDepth (count + 2) (2 * count + 2)
  match grammar.expression true ⟨tokens, []⟩ with
  | some (formula, ⟨[], _⟩) => some formula
  | _ => none

/-- The formula that a text is, if it is exactly one. -/
def ofText? (text : String) : Option Formula :=
  Token.ofText? text >>= ofTokens?

end Shaderwright.Formula
