import Shaderwright.Formula.Grammar

/-!
Types of the host language, as they stand in casts, closures and the arguments
of paths.
-/

namespace Shaderwright.Formula.Grammar

open TokenReader

/-- The binder of lifetimes in front of a bound, a function type or a
closure. -/
def boundLifetimes (grammar : Grammar) : TokenReader Unit := do
  takeKeyword "for"
  takeSign "<"
  let parameter : TokenReader Unit := do
    grammar.outerAttributes
    takeLifetime
    if ← trySign ":" then
      whileAhead grammar.bound lifetime do
        takeLifetime
        let _ ← trySign "+"
  let _ ← separatedUntil grammar.bound (sign ">") "," parameter
  takeSign ">"

def resultType (grammar : Grammar) : TokenReader Unit := do
  if ← trySign "->" then
    grammar.type false

/-- The path of a type. A function trait has its arguments in parentheses;
only if its result is in parentheses or not written, the path goes on. -/
def typePath (grammar : Grammar) : TokenReader PathShape := do
  let shape ← grammar.path false
  if shape.endsWithArguments then
    return shape
  else if ← ask (fun tokens =>
      bracketed .parentheses tokens ||
        sign "::" tokens && third (bracketed .parentheses) tokens) then
    let _ ← trySign "::"
    inside .parentheses do
      let _ ← listed grammar.bound (grammar.type true)
    let goesOn ← if ← trySign "->" then
        let isParenthesized ← ask (bracketed .parentheses)
        grammar.type false
        pure isParenthesized
      else
        pure true
    let more ← if goesOn then grammar.pathRest false else pure []
    return { shape with segments := shape.segments ++ [("", true)] ++ more }
  else
    return shape

def functionType (grammar : Grammar) : TokenReader Unit := do
  let _ ← tryKeyword "unsafe"
  if ← tryKeyword "extern" then
    if ← ask (literalOf .text) then
      let _ ← takeLiteral
  takeKeyword "fn"
  let argument : TokenReader Unit := do
    grammar.outerAttributes
    if ← ask (sign "...") then
      takeSign "..."
    else
      if ← ask (fun tokens =>
          (identifier tokens || keyword "_" tokens) &&
            second (sign ":") tokens && !second (sign "::") tokens) then
        let _ ← takeWord
        takeSign ":"
      grammar.type true
  inside .parentheses do
    let _ ← listed grammar.bound argument
  grammar.resultType

def furtherBounds (grammar : Grammar) (canAdd : Bool) : TokenReader Unit := do
  if canAdd then
    whileAhead grammar.bound (sign "+") do
      takeSign "+"
      unless ← ask (fun tokens =>
          finished tokens || sign "," tokens || sign "=" tokens ||
            sign ">" tokens) do
        grammar.bounds false

/-- The inside of the parentheses of a type: a list of types, or bounds. -/
def tupleType (grammar : Grammar) : TokenReader Unit := do
  if ← ask (fun tokens => lifetime tokens || sign "?" tokens) then
    grammar.bounds true
  else
    let _ ← listed grammar.bound (grammar.type true)

def typeWord : Ahead := fun tokens =>
  identifier tokens || sign "::" tokens || sign "<" tokens ||
    anyKeyword ["super", "self", "Self", "crate"] tokens

/-- A type that is a path, an invocation, or the traits of an object. -/
def namedType (grammar : Grammar) (canAdd isBound : Bool) :
    TokenReader Unit := do
  if ← tryKeyword "dyn" then
    let _ ← trySign "*"
    grammar.bounds canAdd
  else
    let shape ← grammar.typePath
    if !shape.isQualified then
      if ← ask (fun tokens => bang tokens && !shape.hasArguments) then
        invocation
      else if isBound || canAdd then
        grammar.furtherBounds canAdd

/-- A type, to which bounds can be added if the flag says so. -/
def typeStep (grammar : Grammar) (canAdd : Bool) : TokenReader Unit := do
  if ← ask invisible then
    insideInvisible (grammar.type true)
    if ← ask (fun tokens =>
        sign "::" tokens && third word tokens) then
      let _ ← grammar.pathRest false
  else
    let isBound ← ask (keyword "for")
    if isBound then
      grammar.boundLifetimes
    if ← ask (fun tokens => bracketed .parentheses tokens && !isBound) then
      inside .parentheses grammar.tupleType
      grammar.furtherBounds canAdd
    else if ← ask (anyKeyword ["fn", "unsafe", "extern"]) then
      grammar.functionType
    else if ← ask typeWord then
      grammar.namedType canAdd isBound
    else if isBound then
      failure
    else if ← ask (bracketed .brackets) then
      inside .brackets do
        grammar.type true
        if ← trySign ";" then
          let _ ← grammar.expression true
    else if ← trySign "*" then
      unless ← tryKeyword "const" do
        takeKeyword "mut"
      grammar.type false
    else if ← trySign "&" then
      tryLifetime
      let _ ← tryKeyword "mut"
      grammar.type false
    else if ← ask (fun tokens => sign "!" tokens && !sign "=" tokens) then
      takeSign "!"
    else if ← tryKeyword "impl" then
      grammar.bounds canAdd
    else if ← tryKeyword "_" then
      return ()
    else
      demand lifetime
      grammar.bounds canAdd

end Shaderwright.Formula.Grammar
