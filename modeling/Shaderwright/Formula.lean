import Shaderwright.Formula.Token
import Shaderwright.Tree

/-!
Formulas: expressions of the host language as they are written, with their
parentheses. `Formula.ToCode` turns those that describe a shader operation
into code that builds it.
-/

namespace Shaderwright

namespace Formula

/-- A literal as it is written. `text` stands for literals of texts,
characters and bytes. -/
inductive Constant where
  | integer (spelling : String)
  | decimal (spelling : String)
  | boolean (value : Bool)
  | text (spelling : String)
deriving DecidableEq, Repr

/-- A path: a plain identifier, any other path, or one that a type in angle
brackets qualifies. -/
inductive Path where
  | name (identifier : String)
  | segments (tokens : List Token)
  | qualified (tokens : List Token)
deriving Repr

inductive UnaryOperator where
  | negate
  | complement
  | dereference
deriving DecidableEq, Repr

inductive BinaryOperator where
  | arithmetic (operator : ArithmeticOperator)
  | comparison (operator : ComparisonOperator)
  | remainder
  | bitAnd
  | bitOr
  | bitXor
  | shiftLeft
  | shiftRight
  | and
  | or
deriving DecidableEq, Repr

/-- What is selected behind a dot. -/
inductive Member where
  | named (identifier : String)
  | position (index : Nat)
deriving DecidableEq, Repr

/-- Expressions of the host language that describe no shader operation,
whatever they hold. A block ends by itself, as a statement needs it. -/
inductive ForeignForm where
  | block
  | range
  | plain
deriving DecidableEq, Repr

end Formula

/-- An expression of the host language. A group is held together without
brackets of its own; what stands in the brackets of an index is kept as
tokens. -/
inductive Formula where
  | constant (constant : Formula.Constant)
  | path (path : Formula.Path)
  | unary (operator : Formula.UnaryOperator) (operand : Formula)
  | binary (operator : Formula.BinaryOperator) (left right : Formula)
  | assign (target value : Formula)
  | compoundAssign (operator : Formula.BinaryOperator) (target value : Formula)
  | select (base : Formula) (member : Formula.Member)
  | index (base : Formula) (subscript : List Token)
  | call (callee : Formula) (arguments : List Formula)
  | parenthesized (inner : Formula)
  | grouped (inner : Formula)
  | foreign (form : Formula.ForeignForm)
deriving Repr

end Shaderwright
