import Shaderwright.Formula
import Shaderwright.Formula.Cursor

/-!
The grammar of formulas, level by level. Types, patterns, blocks and
expressions nest in each other; a `Grammar` holds the readers of one level, and
the readers of the next level use it for whatever is nested. As every nesting
takes a token, there are no more levels than tokens.
-/

namespace Shaderwright.Formula

/-- How tightly an operator binds, the loosest first. -/
inductive Precedence where
  | none
  | assign
  | range
  | or
  | and
  | compare
  | bitOr
  | bitXor
  | bitAnd
  | shift
  | arithmetic
  | term
  | cast
deriving DecidableEq, Repr

namespace Precedence

def rank : Precedence → Nat
  | none => 0
  | assign => 1
  | range => 2
  | or => 3
  | and => 4
  | compare => 5
  | bitOr => 6
  | bitXor => 7
  | bitAnd => 8
  | shift => 9
  | arithmetic => 10
  | term => 11
  | cast => 12

end Precedence

/-- Readers of one level, and a bound on the number of repetitions. The flag of
an expression says whether a path and braces in it are a structure; that of a
type, whether bounds may be added to it. `continuation` goes on behind a left
side with operators that bind at least as tightly as the given precedence;
`leading` reads an expression that may end itself. -/
structure Grammar where
  bound : Nat
  expression : Bool → TokenReader Formula
  leading : TokenReader Formula
  unary : Bool → TokenReader Formula
  continuation : Precedence → Bool → Formula → TokenReader Formula
  type : Bool → TokenReader Unit
  pattern : TokenReader Unit
  statements : TokenReader Unit

namespace Grammar

/-- The level below all others, where nothing can be read. -/
def empty (bound : Nat) : Grammar where
  bound := bound
  expression _ := failure
  leading := failure
  unary _ := failure
  continuation _ _ _ := failure
  type _ := failure
  pattern := failure
  statements := failure

open TokenReader

/-! ## Paths without arguments, attributes and invocations -/

def pathWord : Ahead := fun tokens =>
  identifier tokens || anyKeyword ["super", "self", "Self", "crate"] tokens

/-- A path of words alone. -/
def plainPath (grammar : Grammar) : TokenReader Unit := do
  let _ ← trySign "::"
  demand pathWord
  let _ ← takeWord
  whileAhead grammar.bound (sign "::") do
    takeSign "::"
    demand pathWord
    let _ ← takeWord

def attributeBody (grammar : Grammar) : TokenReader Unit := do
  inside .brackets do
    grammar.plainPath
    takeRest

def outerAttribute (grammar : Grammar) : TokenReader Unit := do
  takeSign "#"
  grammar.attributeBody

def outerAttributes (grammar : Grammar) : TokenReader Unit :=
  whileAhead grammar.bound (sign "#") grammar.outerAttribute

/-- Attributes in front of an expression; those inside of an invisible group
belong to what is in it. -/
def expressionAttributes (grammar : Grammar) : TokenReader Unit :=
  whileAhead grammar.bound
    (fun tokens => !invisible tokens && sign "#" tokens) grammar.outerAttribute

/-- Attributes of what they stand in. -/
def innerAttributes (grammar : Grammar) : TokenReader Unit :=
  whileAhead grammar.bound
    (fun tokens => sign "#" tokens && second (sign "!") tokens) do
      takeSign "#"
      takeSign "!"
      grammar.attributeBody

def anyGroup : TokenReader Unit := do
  match ← takeToken with
  | .group _ _ => return ()
  | _ => failure

/-- Whether an invocation goes on behind its path. -/
def bang : Ahead := fun tokens =>
  sign "!" tokens && !sign "!=" tokens

/-- The rest of an invocation behind its path: its arguments can be any
tokens. -/
def invocation : TokenReader Unit := do
  takeSign "!"
  anyGroup

/-! ## Paths -/

/-- The bounds of a type parameter, separated by plus signs. -/
def bounds (grammar : Grammar) (canAdd : Bool) : TokenReader Unit := do
  let single : TokenReader Unit := do
    if ← ask lifetime then
      takeLifetime
    else
      let _ ← trySign "?"
      grammar.type false
  single
  if canAdd then
    whileAhead grammar.bound (sign "+") do
      takeSign "+"
      if ← ask (fun tokens =>
          lifetime tokens || pathWord tokens || sign "::" tokens ||
            sign "<" tokens || sign "?" tokens || keyword "for" tokens ||
            bracketed .parentheses tokens) then
        single

/-- One argument of a path: a lifetime, a type, a constant, or what is given to
an associated type. -/
def genericArgument (grammar : Grammar) : TokenReader Unit := do
  if ← ask (fun tokens => lifetime tokens && !second (sign "+") tokens) then
    takeLifetime
  else if ← ask (fun tokens =>
      identifier tokens && second (sign "=") tokens) then
    let _ ← takeWord
    takeSign "="
    if ← ask literal then
      let _ ← takeLiteral
    else if ← ask (bracketed .braces) then
      inside .braces grammar.statements
    else
      grammar.type true
  else if ← ask (fun tokens =>
      identifier tokens && second (sign ":") tokens &&
        !second (sign "::") tokens) then
    let _ ← takeWord
    takeSign ":"
    unless ← ask (fun tokens => sign "," tokens || sign ">" tokens) do
      grammar.bounds true
  else if ← ask literal then
    let _ ← takeLiteral
  else if ← ask (bracketed .braces) then
    inside .braces grammar.statements
  else
    grammar.type true
    if ← trySign "=" then
      grammar.type true

def genericArguments (grammar : Grammar) : TokenReader Unit := do
  takeSign "<"
  let _ ← separatedUntil grammar.bound (sign ">") "," grammar.genericArgument
  takeSign ">"

/-- A step of a path, and whether it has arguments. In an expression only a
double colon begins them. -/
def pathSegment (grammar : Grammar) (inExpression : Bool) :
    TokenReader (String × Bool) := do
  if ← ask (anyKeyword ["super", "self", "crate", "try"]) then
    return (← takeWord, false)
  else
    demand fun tokens => identifier tokens || keyword "Self" tokens
    let name ← takeWord
    if ← ask (fun tokens =>
        !inExpression && sign "<" tokens && !sign "<=" tokens) then
      grammar.genericArguments
      return (name, true)
    else if ← ask (fun tokens =>
        sign "::" tokens && third (sign "<") tokens) then
      takeSign "::"
      grammar.genericArguments
      return (name, true)
    else
      return (name, false)

def pathRest (grammar : Grammar) (inExpression : Bool) :
    TokenReader (List (String × Bool)) := do
  let reversed ← iterate
    (fun segments => do
      if ← ask (fun tokens =>
          sign "::" tokens &&
            !third (bracketed .parentheses) tokens) then
        takeSign "::"
        return some ((← grammar.pathSegment inExpression) :: segments)
      else
        return none)
    grammar.bound []
  return reversed.reverse

/-- How a path is made: whether a type qualifies it, whether it begins at the
root of all names, and its steps. -/
structure PathShape where
  isQualified : Bool
  isRooted : Bool
  segments : List (String × Bool)

namespace PathShape

def hasArguments (shape : PathShape) : Bool :=
  shape.segments.any Prod.snd

def endsWithArguments (shape : PathShape) : Bool :=
  shape.segments.getLast?.any Prod.snd

/-- The path of this shape with the given tokens. -/
def path (shape : PathShape) (tokens : List Token) : Path :=
  match shape with
  | ⟨true, _, _⟩ => .qualified tokens
  | ⟨false, false, [(identifier, false)]⟩ => .name identifier
  | ⟨false, _, _⟩ => .segments tokens

end PathShape

def unqualifiedPath (grammar : Grammar) (inExpression : Bool) :
    TokenReader PathShape := do
  let isRooted ← trySign "::"
  let first ← grammar.pathSegment inExpression
  let rest ← grammar.pathRest inExpression
  return ⟨false, isRooted, first :: rest⟩

/-- A path, which a type in angle brackets may qualify. -/
def path (grammar : Grammar) (inExpression : Bool) : TokenReader PathShape := do
  if ← ask (sign "<") then
    takeSign "<"
    grammar.type true
    if ← tryKeyword "as" then
      let _ ← grammar.unqualifiedPath false
    takeSign ">"
    takeSign "::"
    let first ← grammar.pathSegment inExpression
    let rest ← iterate
      (fun segments => do
        if ← trySign "::" then
          return some ((← grammar.pathSegment inExpression) :: segments)
        else
          return none)
      grammar.bound []
    return ⟨true, false, first :: rest.reverse⟩
  else
    grammar.unqualifiedPath inExpression

/-! ## Ranges and blocks -/

/-- The operator of a range. Three dots mean the same as two with an equals
sign. -/
def rangeOperator : TokenReader Unit := do
  if ← ask (sign "..=") then
    takeSign "..="
  else if ← ask (sign "...") then
    takeSignAs "..." "..="
  else
    takeSign ".."

/-- A block in braces, with attributes of its own if the flag says so. -/
def block (grammar : Grammar) (hasAttributes : Bool) : TokenReader Unit :=
  inside .braces do
    if hasAttributes then
      grammar.innerAttributes
    grammar.statements

end Grammar

end Shaderwright.Formula
