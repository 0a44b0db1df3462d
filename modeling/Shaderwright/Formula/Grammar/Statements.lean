import Shaderwright.Formula.Grammar.Expressions

/-!
Statements of the host language, as they stand in blocks. Of the items that
are declared in a block only the extent is read.
-/

namespace Shaderwright.Formula.Grammar

open TokenReader

/-! ## Items -/

/-- Whether an item comes next: something that a block declares, other than a
variable. -/
def beginsItem : Ahead := fun tokens =>
  let isFunction := anyKeyword ["unsafe", "extern", "fn"]
  anyKeyword
      [ "pub", "extern", "use", "fn", "mod", "type", "struct", "enum",
        "trait", "impl", "macro" ] tokens ||
    keyword "crate" tokens && !second (sign "::") tokens ||
    keyword "static" tokens &&
      (second (keyword "mut") tokens || second identifier tokens &&
        !(second (keyword "async") tokens &&
          (third (keyword "move") tokens || third (sign "|") tokens))) ||
    keyword "const" tokens &&
      (second identifier tokens || second (keyword "_") tokens ||
        second isFunction tokens) ||
    keyword "unsafe" tokens && !second (bracketed .braces) tokens ||
    keyword "async" tokens && second isFunction tokens ||
    keyword "union" tokens && second identifier tokens ||
    keyword "auto" tokens && second (keyword "trait") tokens ||
    keyword "default" tokens && second (anyKeyword ["unsafe", "impl"]) tokens

/-- Whether a semicolon ends the item that comes next, even behind braces. -/
def endsWithSemicolon : Ahead := fun tokens =>
  anyKeyword ["use", "static", "type"] tokens ||
    keyword "const" tokens &&
      !second (anyKeyword ["unsafe", "extern", "fn", "async"]) tokens

/-- An item, up to its semicolon or its braces. -/
def item (grammar : Grammar) : TokenReader Unit := do
  if ← tryKeyword "pub" then
    if ← ask (bracketed .parentheses) then
      anyGroup
  let needsSemicolon ← ask endsWithSemicolon
  let _ ← iterate
    (fun isComplete => do
      if isComplete then
        return none
      else
        match ← takeToken with
        | .mark ';' _ => return some true
        | .group .braces _ => return some (!needsSemicolon)
        | _ => return some false)
    grammar.bound false

/-! ## Statements -/

/-- An invocation with braces, or one that declares a name. -/
def invocationStatement (grammar : Grammar) : TokenReader Unit := do
  grammar.plainPath
  demand fun tokens =>
    sign "!" tokens &&
      (second (bracketed .braces) tokens &&
          !(third (sign ".") tokens || third (sign "?") tokens) ||
        second identifier tokens)
  takeSign "!"
  if ← ask identifier then
    let _ ← takeWord
  anyGroup
  let _ ← trySign ";"

/-- The declaration of a variable. A block may follow for the case that the
pattern does not match. -/
def declaration (grammar : Grammar) : TokenReader Unit := do
  takeKeyword "let"
  grammar.alternatives
  if ← trySign ":" then
    grammar.type true
  if ← trySign "=" then
    let _ ← grammar.expression true
    if ← tryKeyword "else" then
      grammar.block false
  takeSign ";"

/-- An expression as a statement, and whether something has to separate it
from the next. -/
def expressionStatement (grammar : Grammar) : TokenReader Bool := do
  let expression ← grammar.leadingStep
  if ← trySign ";" then
    return false
  else
    return !endsItself expression

/-- A statement, and whether something has to separate it from the next. -/
def statement (grammar : Grammar) : TokenReader Bool := do
  grammar.outerAttributes
  let invoked : TokenReader Bool := do
    grammar.invocationStatement
    return false
  let other : TokenReader Bool := do
    if ← ask (keyword "let") then
      grammar.declaration
      return false
    else if ← ask beginsItem then
      grammar.item
      return false
    else
      grammar.expressionStatement
  invoked <|> other

def statementsStep (grammar : Grammar) : TokenReader Unit :=
  iterate
    (fun _ => do
      whileAhead grammar.bound (sign ";") (takeSign ";")
      if ← ask finished then
        return none
      else
        let needsSeparator ← grammar.statement
        if ← ask finished then
          return none
        else if needsSeparator then
          failure
        else
          return some ())
    grammar.bound ()

end Shaderwright.Formula.Grammar
