import Shaderwright.Proofs.Expression.Token

/-!
The grammar of expressions in the target language, as a relation between
tokens and trees (`Reads`). Each level of precedence has a production of its
own; a tree of a tighter level stands wherever a looser one is wanted.
-/

namespace Shaderwright.Expression

/-! ## Names -/

/-- The keywords that name no type. -/
def keywords : List String :=
  ["attribute", "const", "uniform", "varying", "break", "continue", "do",
    "for", "while", "if", "else", "in", "out", "inout", "true", "false",
    "lowp", "mediump", "highp", "precision", "invariant", "discard",
    "return", "struct"]

/-- The keywords that name types, and constructors with them. -/
def typeKeywords : List String :=
  ["float", "int", "void", "bool", "mat2", "mat3", "mat4", "vec2", "vec3",
    "vec4", "ivec2", "ivec3", "ivec4", "bvec2", "bvec3", "bvec4",
    "sampler2D", "samplerCube"]

/-- Whether a text can be called: it is a name or the keyword of a type. -/
structure IsCallable (text : String) : Prop where
  identifier : isIdentifier text = true
  noKeyword : text ∉ keywords

/-- Whether a text names a variable, a function or a component. -/
structure IsName (text : String) : Prop extends IsCallable text where
  noType : text ∉ typeKeywords

instance (text : String) : Decidable (IsCallable text) :=
  decidable_of_iff (isIdentifier text = true ∧ text ∉ keywords)
    ⟨fun holds => ⟨holds.1, holds.2⟩,
      fun holds => ⟨holds.identifier, holds.noKeyword⟩⟩

instance (text : String) : Decidable (IsName text) :=
  decidable_of_iff (IsCallable text ∧ text ∉ typeKeywords)
    ⟨fun holds => ⟨holds.1, holds.2⟩,
      fun holds => ⟨holds.toIsCallable, holds.noType⟩⟩

/-- Whether a text is a number without a sign: digits, with one point at
most. -/
def isNumeral (text : String) : Bool :=
  text.toList.any Char.isDigit && text.toList.all isNumberPart &&
    decide (text.toList.count '.' ≤ 1)

/-! ## Trees -/

inductive Tree where
  | variable (name : String)
  | number (text : String)
  | boolean (truth : Bool)
  | field (base : Tree) (name : String)
  | index (base place : Tree)
  | call (name : String) (arguments : List Tree)
  | negate (operand : Tree)
  | binary (operator : BinaryOperator) (left right : Tree)
  | assign (operator : AssignmentOperator) (target value : Tree)

/-! ## Levels -/

/-- The levels of precedence, the tightest first. -/
inductive Level where
  | access
  | unary
  | multiplicative
  | additive
  | relational
  | equality
  | assignment
deriving DecidableEq, Repr

namespace Level

def rank : Level → Nat
  | access => 0
  | unary => 1
  | multiplicative => 2
  | additive => 3
  | relational => 4
  | equality => 5
  | assignment => 6

/-- The next tighter level; nothing is tighter than a selection or a call. -/
def tighter : Level → Level
  | access => access
  | unary => access
  | multiplicative => unary
  | additive => multiplicative
  | relational => additive
  | equality => relational
  | assignment => equality

end Level

/-- The level of the expressions that an operator forms. -/
def BinaryOperator.level : BinaryOperator → Level
  | arithmetic .add => .additive
  | arithmetic .subtract => .additive
  | arithmetic .multiply => .multiplicative
  | arithmetic .divide => .multiplicative
  | comparison .equals => .equality
  | comparison .notEquals => .equality
  | comparison _ => .relational

/-! ## Productions -/

/-- The word of a truth value. -/
def booleanWord (truth : Bool) : String :=
  if truth then "true" else "false"

/-- Lists of tokens with commas between them. -/
def commaSeparated (parts : List (List Token)) : List Token :=
  [Token.comma].intercalate parts

/-- The tokens that can be read as a tree at a level. Binary operators group
to the left, assignments to the right. -/
inductive Reads : Level → List Token → Tree → Prop
  | name {name : String} (named : IsName name) :
      Reads .access [.word name] (.variable name)
  | number {text : String} (numeral : isNumeral text = true) :
      Reads .access [.number text] (.number text)
  | boolean (truth : Bool) :
      Reads .access [.word (booleanWord truth)] (.boolean truth)
  | group {tokens : List Token} {tree : Tree}
      (inner : Reads .assignment tokens tree) :
      Reads .access
        (.openParenthesis :: (tokens ++ [.closeParenthesis])) tree
  | call {name : String} (callable : IsCallable name)
      (arguments : List (List Token × Tree))
      (each : ∀ argument ∈ arguments,
        Reads .assignment argument.1 argument.2) :
      Reads .access
        (.word name :: .openParenthesis ::
          (commaSeparated (arguments.map Prod.fst) ++
            [.closeParenthesis]))
        (.call name (arguments.map Prod.snd))
  | field {tokens : List Token} {base : Tree} {name : String}
      (selected : Reads .access tokens base) (named : IsName name) :
      Reads .access (tokens ++ [.point, .word name]) (.field base name)
  | index {tokens inner : List Token} {base place : Tree}
      (selected : Reads .access tokens base)
      (indexed : Reads .assignment inner place) :
      Reads .access
        (tokens ++ .openBracket :: (inner ++ [.closeBracket]))
        (.index base place)
  | negate {tokens : List Token} {tree : Tree}
      (operand : Reads .unary tokens tree) :
      Reads .unary (.operator (.arithmetic .subtract) :: tokens)
        (.negate tree)
  | binary {operator : BinaryOperator} {before after : List Token}
      {left right : Tree}
      (first : Reads operator.level before left)
      (second : Reads operator.level.tighter after right) :
      Reads operator.level (before ++ .operator operator :: after)
        (.binary operator left right)
  | assign {operator : AssignmentOperator} {before after : List Token}
      {target value : Tree}
      (assigned : Reads .unary before target)
      (source : Reads .assignment after value) :
      Reads .assignment (before ++ .assignment operator :: after)
        (.assign operator target value)
  | looser {level : Level} {tokens : List Token} {tree : Tree}
      (tight : Reads level.tighter tokens tree) :
      Reads level tokens tree

end Shaderwright.Expression
