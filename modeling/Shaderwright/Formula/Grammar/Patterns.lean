import Shaderwright.Formula.Grammar
import Shaderwright.Json.Reader

/-!
Patterns of the host language, as they stand in closures, loops, matches and
declarations.
-/

namespace Shaderwright.Formula.Grammar

open TokenReader

/-- Whether another alternative of a pattern follows. -/
def alternative : Ahead := fun tokens =>
  sign "|" tokens && !sign "||" tokens && !sign "|=" tokens

/-- Alternatives of a pattern; a bar may stand in front of the first. -/
def alternatives (grammar : Grammar) : TokenReader Unit := do
  let _ ← trySign "|"
  grammar.pattern
  whileAhead grammar.bound alternative do
    takeSign "|"
    grammar.pattern

/-- What a member is called: an identifier, or an integer without a suffix,
which is kept as its digits. -/
def member : TokenReader Member := do
  if ← ask identifier then
    return .named (← takeWord)
  else
    match ← next with
    | .literal .integer spelling =>
        let some number := indexOf? spelling | failure
        keep [.literal .integer (toString number)]
        return .position number
    | _ => failure
where
  /-- The number of an integer literal without a suffix, if it is below
  two to the power of 32. -/
  indexOf? (spelling : String) : Option Nat := do
    let (base, digits) := match spelling.toList with
      | '0' :: 'x' :: digits => (16, digits)
      | '0' :: 'o' :: digits => (8, digits)
      | '0' :: 'b' :: digits => (2, digits)
      | digits => (10, digits)
    let values ← (digits.filter (· != '_')).mapM fun c =>
      (Json.hexValue? c).filter (· < base)
    let number := values.foldl (fun value digit => base * value + digit) 0
    if number < 4294967296 then some number else none

def fieldPattern (grammar : Grammar) : TokenReader Unit := do
  let isBoxed ← tryKeyword "box"
  let isReference ← tryKeyword "ref"
  let isMutable ← tryKeyword "mut"
  let isPlain := !(isBoxed || isReference || isMutable)
  match ← member with
  | .named _ =>
      if ← ask (fun tokens => isPlain && sign ":" tokens) then
        takeSign ":"
        grammar.alternatives
  | .position _ =>
      takeSign ":"
      grammar.alternatives

def structurePattern (grammar : Grammar) : TokenReader Unit := do
  let _ ← iterate
    (fun isComplete => do
      if isComplete || (← ask finished) then
        return none
      else
        grammar.outerAttributes
        if ← ask (sign "..") then
          takeSign ".."
          return some true
        else
          grammar.fieldPattern
          unless ← ask finished do
            takeSign ","
          return some false)
    grammar.bound false

/-- Whether nothing stands where the end of a range could be. -/
def noRangeEnd : Ahead := fun tokens =>
  finished tokens || sign "|" tokens || sign "=>" tokens ||
    sign ":" tokens && !sign "::" tokens || sign "," tokens || sign ";" tokens

def rangeEnd (grammar : Grammar) : TokenReader Bool := do
  if ← ask noRangeEnd then
    return false
  else
    let _ ← trySign "-"
    if ← ask literal then
      let _ ← takeLiteral
    else if ← tryKeyword "const" then
      grammar.block true
    else
      let _ ← grammar.path true
    return true

/-- A pattern that begins with a path: the path, an invocation, a structure, a
tuple or a range. -/
def pathPattern (grammar : Grammar) : TokenReader Unit := do
  let shape ← grammar.path true
  if ← ask (fun tokens =>
      bang tokens && !shape.isQualified && !shape.hasArguments) then
    invocation
  else if ← ask (bracketed .braces) then
    inside .braces grammar.structurePattern
  else if ← ask (bracketed .parentheses) then
    inside .parentheses do
      let _ ← listed grammar.bound grammar.alternatives
  else if ← ask (sign "..") then
    rangeOperator
    let _ ← grammar.rangeEnd

/-- Whether a range comes next that goes on behind its operator. -/
def beginsRange : Ahead := fun tokens =>
  let length := if sign "..=" tokens || sign "..." tokens then 3 else 2
  let rest := tokens.drop length
  sign ".." tokens && !(finished rest || sign "," rest)

/-- Whether a path pattern comes next that is more than an identifier. -/
def beginsPathPattern : Ahead := fun tokens =>
  let more := fun rest =>
    sign "::" rest || sign "!" rest || bracketed .braces rest ||
      bracketed .parentheses rest || beginsRange rest
  identifier tokens && (Token.opened tokens).tail?.any more ||
    keyword "self" tokens && (Token.opened tokens).tail?.any (sign "::") ||
    sign "::" tokens || sign "<" tokens ||
    anyKeyword ["Self", "super", "crate"] tokens

def patternStep (grammar : Grammar) : TokenReader Unit := do
  if ← ask beginsPathPattern then
    grammar.pathPattern
  else if ← tryKeyword "_" then
    return ()
  else if ← tryKeyword "box" then
    grammar.pattern
  else if ← ask (fun tokens =>
      sign "-" tokens || literal tokens || keyword "const" tokens) then
    let _ ← grammar.rangeEnd
    if ← ask (sign "..") then
      rangeOperator
      let _ ← grammar.rangeEnd
  else if ← ask (fun tokens =>
      identifier tokens || anyKeyword ["ref", "mut", "self"] tokens) then
    let _ ← tryKeyword "ref"
    let _ ← tryKeyword "mut"
    let _ ← takeWord
    if ← trySign "@" then
      grammar.pattern
  else if ← trySign "&" then
    let _ ← tryKeyword "mut"
    grammar.pattern
  else if ← ask (bracketed .parentheses) then
    inside .parentheses do
      let _ ← listed grammar.bound grammar.alternatives
  else if ← ask (bracketed .brackets) then
    inside .brackets do
      let _ ← listed grammar.bound grammar.alternatives
  else
    demand fun tokens => sign ".." tokens && !sign "..." tokens
    let isInclusive ← ask (sign "..=")
    rangeOperator
    let hasEnd ← grammar.rangeEnd
    if isInclusive && !hasEnd then failure

end Shaderwright.Formula.Grammar
