import Shaderwright.Text.Quoted

/-!
Tokens of formulas, as trees: brackets are matched, and what stands between a
pair of them is a group. Their text separates tokens by one space.
-/

namespace Shaderwright

/-- Brackets around a group. An invisible group holds its tokens together
without any brackets. -/
inductive Delimiter where
  | parentheses
  | brackets
  | braces
  | invisible
deriving DecidableEq, Repr

inductive LiteralKind where
  | integer
  | decimal
  | text
deriving DecidableEq, Repr

/-- A token. A mark is one character of an operator or of punctuation; it is
joined if the next mark follows without a space, so that both can belong to
one operator. -/
inductive Token where
  | word (text : String)
  | mark (sign : Char) (isJoined : Bool)
  | literal (kind : LiteralKind) (text : String)
  | group (delimiter : Delimiter) (tokens : List Token)
deriving Repr

/-! ## Text -/

/-- Puts the brackets of a group around its text. -/
def Delimiter.enclose : Delimiter → String → String
  | parentheses, text => "(" ++ text ++ ")"
  | brackets, text => "[" ++ text ++ "]"
  | braces, "" => "\x7b \x7d"
  | braces, text => "\x7b " ++ text ++ " \x7d"
  | invisible, text => text

namespace Token

/-- Whether the token is written next to the one behind it. -/
def isJoined : Token → Bool
  | mark _ isJoined => isJoined
  | _ => false

mutual

def text : Token → String
  | word text => text
  | mark sign _ => sign.toString
  | literal _ text => text
  | group delimiter tokens => delimiter.enclose (textOf tokens)

def textOf : List Token → String
  | [] => ""
  | [token] => token.text
  | token :: next :: rest =>
      token.text ++ (if token.isJoined then "" else " ") ++
        textOf (next :: rest)

end

/-! ## Spelling -/

def operator : List Char → List Token
  | [] => []
  | [sign] => [mark sign false]
  | sign :: next :: rest => mark sign true :: operator (next :: rest)

/-- The characters of a text between the quotation marks of a literal. They are
escaped as in reports, except that a null character in front of an octal digit
is escaped by its number, which keeps the two apart. -/
def literalCharacters : List Char → List Char
  | [] => []
  | '\x00' :: next :: rest =>
      (if '0' ≤ next ∧ next ≤ '7' then
        ['\\', 'x', '0', '0']
      else
        ['\\', '0']) ++ literalCharacters (next :: rest)
  | c :: rest => Text.escapeVisibly c ++ literalCharacters rest

/-- The literal that stands for a text. -/
def quoting (text : String) : Token :=
  literal .text
    (String.ofList ('"' :: literalCharacters text.toList ++ ['"']))

/-! ## Size -/

mutual

/-- Number of tokens, those inside of groups included. -/
def size : Token → Nat
  | group _ tokens => count tokens + 1
  | _ => 1

def count : List Token → Nat
  | [] => 0
  | token :: rest => token.size + count rest

end

theorem count_append (first second : List Token) :
    count (first ++ second) = count first + count second := by
  induction first with
  | nil => simp [count]
  | cons token rest inductionHypothesis =>
      simp only [List.cons_append, count, inductionHypothesis]
      omega

/-- The tokens with invisible groups in front opened. -/
def opened : List Token → List Token
  | group .invisible tokens :: rest => opened (tokens ++ rest)
  | tokens => tokens
termination_by tokens => count tokens
decreasing_by
  simp only [count_append, count, size]
  omega

end Token

end Shaderwright
