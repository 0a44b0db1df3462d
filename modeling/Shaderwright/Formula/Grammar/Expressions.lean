import Shaderwright.Formula.Grammar.Patterns
import Shaderwright.Formula.Grammar.Types

/-!
Expressions of the host language. Postfix operators bind tightest, then prefix
operators, then infix operators by their precedence. Infix operators of one
precedence group to the left, assignments to the right.
-/

namespace Shaderwright.Formula

/-! ## Infix operators -/

/-- An infix operator as it is spelled, and whether it assigns what it
computes. -/
structure Joint where
  spelling : String
  operator : BinaryOperator
  isAssignment : Bool

namespace Joint

/-- Every infix operator, longer spellings in front of their beginnings. -/
def all : List Joint :=
  [ ⟨"+=", .arithmetic .add, true⟩,
    ⟨"-=", .arithmetic .subtract, true⟩,
    ⟨"*=", .arithmetic .multiply, true⟩,
    ⟨"/=", .arithmetic .divide, true⟩,
    ⟨"%=", .remainder, true⟩,
    ⟨"^=", .bitXor, true⟩,
    ⟨"&=", .bitAnd, true⟩,
    ⟨"|=", .bitOr, true⟩,
    ⟨"<<=", .shiftLeft, true⟩,
    ⟨">>=", .shiftRight, true⟩,
    ⟨"&&", .and, false⟩,
    ⟨"||", .or, false⟩,
    ⟨"<<", .shiftLeft, false⟩,
    ⟨">>", .shiftRight, false⟩,
    ⟨"==", .comparison .equals, false⟩,
    ⟨"<=", .comparison .lessEquals, false⟩,
    ⟨"!=", .comparison .notEquals, false⟩,
    ⟨">=", .comparison .greaterEquals, false⟩,
    ⟨"+", .arithmetic .add, false⟩,
    ⟨"-", .arithmetic .subtract, false⟩,
    ⟨"*", .arithmetic .multiply, false⟩,
    ⟨"/", .arithmetic .divide, false⟩,
    ⟨"%", .remainder, false⟩,
    ⟨"^", .bitXor, false⟩,
    ⟨"&", .bitAnd, false⟩,
    ⟨"|", .bitOr, false⟩,
    ⟨"<", .comparison .less, false⟩,
    ⟨">", .comparison .greater, false⟩ ]

def next? (tokens : List Token) : Option Joint :=
  all.find? fun joint => sign joint.spelling tokens

end Joint

/-- How tightly an operator binds that assigns nothing. -/
def BinaryOperator.precedence : BinaryOperator → Precedence
  | arithmetic .add => .arithmetic
  | arithmetic .subtract => .arithmetic
  | arithmetic .multiply => .term
  | arithmetic .divide => .term
  | comparison _ => .compare
  | remainder => .term
  | bitAnd => .bitAnd
  | bitOr => .bitOr
  | bitXor => .bitXor
  | shiftLeft => .shift
  | shiftRight => .shift
  | and => .and
  | or => .or

namespace Joint

def precedence (joint : Joint) : Precedence :=
  if joint.isAssignment then .assign else joint.operator.precedence

def join (joint : Joint) (left right : Formula) : Formula :=
  if joint.isAssignment then
    .compoundAssign joint.operator left right
  else
    .binary joint.operator left right

end Joint

/-- How tightly binds what comes next behind an operand. -/
def nextPrecedence (tokens : List Token) : Precedence :=
  match Joint.next? tokens with
  | some joint => joint.precedence
  | none =>
      if sign "=" tokens && !sign "=>" tokens then .assign
      else if sign ".." tokens then .range
      else if keyword "as" tokens || sign ":" tokens && !sign "::" tokens then
        .cast
      else .none

namespace Grammar

open TokenReader

/-- An operand behind an operator, with everything that binds tightly
enough. -/
def operandBehind (grammar : Grammar) (hasStructures : Bool)
    (goesOn : Precedence → Bool) : TokenReader Formula := do
  let first ← grammar.unary hasStructures
  iterate
    (fun operand => do
      let next := nextPrecedence (← ahead)
      if goesOn next then
        return some (← grammar.continuation next hasStructures operand)
      else
        return none)
    grammar.bound first

/-- Whether a range ends without an upper bound. -/
def isOpenRange (hasStructures : Bool) : Ahead := fun tokens =>
  finished tokens || sign "," tokens || sign ";" tokens ||
    sign "." tokens && !sign ".." tokens ||
    !hasStructures && bracketed .braces tokens

/-- Whether something follows that has no place behind a cast. -/
def spoilsCast : Ahead := fun tokens =>
  sign "." tokens && !sign ".." tokens || sign "?" tokens ||
    bracketed .brackets tokens || bracketed .parentheses tokens

def castType (grammar : Grammar) : TokenReader Unit := do
  grammar.type false
  demand fun tokens => !spoilsCast tokens

/-- Goes one operator further behind a left side. -/
def continuationStep (grammar : Grammar) (base : Precedence)
    (hasStructures : Bool) (left : Formula) : TokenReader (Option Formula) := do
  let tokens ← ahead
  let binds := fun (precedence : Precedence) => base.rank ≤ precedence.rank
  match (Joint.next? tokens).filter fun joint => binds joint.precedence with
  | some joint =>
      takeSign joint.spelling
      let right ← grammar.operandBehind hasStructures fun next =>
        joint.precedence.rank < next.rank ||
          joint.isAssignment && next == .assign
      return some (joint.join left right)
  | none =>
      if binds .assign && sign "=" tokens && !sign "==" tokens &&
          !sign "=>" tokens then
        takeSign "="
        let right ← grammar.operandBehind hasStructures fun next =>
          Precedence.assign.rank ≤ next.rank
        return some (.assign left right)
      else if binds .range && sign ".." tokens then
        rangeOperator
        unless ← ask (isOpenRange hasStructures) do
          let _ ← grammar.operandBehind hasStructures fun next =>
            Precedence.range.rank < next.rank
        return some (.foreign .range)
      else if keyword "as" tokens then
        takeKeyword "as"
        grammar.castType
        return some (.foreign .plain)
      else if sign ":" tokens && !sign "::" tokens then
        takeSign ":"
        grammar.castType
        return some (.foreign .plain)
      else
        return none

def continuationFrom (grammar : Grammar) (base : Precedence)
    (hasStructures : Bool) (left : Formula) : TokenReader Formula :=
  iterate (grammar.continuationStep base hasStructures) grammar.bound left

/-! ## Postfix operators -/

/-- Selects by the parts of a number with a point: `a.0.1` selects twice. A
point at the end belongs to the next selection. -/
def selectParts : List String → Formula → TokenReader (Formula × Bool)
  | [], base => return (base, true)
  | [""], base => return (base, false)
  | part :: rest, base => do
      let some number := member.indexOf? part | failure
      keep [.literal .integer (toString number)]
      unless rest.isEmpty do
        keep [.mark '.' false]
      selectParts rest (.select base (.position number))

/-- What follows the dot of a selection: a member, or the call of a method. -/
def selectMember (grammar : Grammar) (base : Formula) :
    TokenReader Formula := do
  let selected ← member
  match selected with
  | .position _ => return .select base selected
  | .named _ =>
      let hasArguments ← ask (sign "::")
      if hasArguments then
        takeSign "::"
        grammar.genericArguments
      if hasArguments || (← ask (bracketed .parentheses)) then
        inside .parentheses do
          let _ ← listed grammar.bound (grammar.expression true)
        return .foreign .plain
      else
        return .select base selected

def selection (grammar : Grammar) (base : Formula) : TokenReader Formula := do
  takeSign "."
  if ← tryKeyword "await" then
    return .foreign .plain
  else if ← ask (literalOf .decimal) then
    let number ← next
    let (selected, isComplete) ←
      selectParts (number.text.splitOn ".") base
    if isComplete then
      return selected
    else
      grammar.selectMember selected
  else
    grammar.selectMember base

def isRange : Formula → Bool
  | .foreign .range => true
  | _ => false

/-- Applies the next postfix operator. -/
def postfixStep (grammar : Grammar) (base : Formula) :
    TokenReader (Option Formula) := do
  if ← ask (bracketed .parentheses) then
    let arguments ← inside .parentheses
      (listed grammar.bound (grammar.expression true))
    return some (.call base arguments)
  else if ← ask (fun tokens =>
      sign "." tokens && !sign ".." tokens && !isRange base) then
    return some (← grammar.selection base)
  else if ← ask (bracketed .brackets) then
    let (_, subscript) ← inside .brackets
      (spelled (grammar.expression true))
    return some (.index base subscript)
  else if ← trySign "?" then
    return some (.foreign .plain)
  else
    return none

def postfixes (grammar : Grammar) (base : Formula) : TokenReader Formula :=
  iterate grammar.postfixStep grammar.bound base

/-! ## Names, brackets and structures -/

/-- A field of a structure: a member with its value, or an identifier that
names both. -/
def fieldValue (grammar : Grammar) : TokenReader Unit := do
  grammar.outerAttributes
  let name ← member
  let isShort ← match name with
    | .named _ => ask fun tokens => !sign ":" tokens
    | .position _ => pure false
  unless isShort do
    takeSign ":"
    let _ ← grammar.expression true

/-- The inside of the braces of a structure. Two dots in front of the last
expression take the other fields from there. -/
def structureFields (grammar : Grammar) : TokenReader Unit := do
  let _ ← iterate
    (fun isComplete => do
      if isComplete || (← ask finished) then
        return none
      else if ← trySign ".." then
        unless ← ask finished do
          let _ ← grammar.expression true
        return some true
      else
        grammar.fieldValue
        unless ← ask finished do
          takeSign ","
        return some false)
    grammar.bound false

/-- A path, an invocation, or a structure where there can be one. -/
def named (grammar : Grammar) (hasStructures : Bool) : TokenReader Formula := do
  let (shape, tokens) ← spelled (grammar.path true)
  if ← ask (fun tokens =>
      bang tokens && !shape.isQualified && !shape.hasArguments) then
    invocation
    return .foreign .plain
  else if ← ask (fun tokens => hasStructures && bracketed .braces tokens) then
    inside .braces grammar.structureFields
    return .foreign .plain
  else
    return .path (shape.path tokens)

/-- A parenthesized expression or a tuple, which has a comma. -/
def parenthesized (grammar : Grammar) : TokenReader Formula := do
  inside .parentheses do
    if ← ask finished then
      return .foreign .plain
    else
      let first ← grammar.expression true
      if ← ask finished then
        return .parenthesized first
      else
        takeSign ","
        let _ ← listed grammar.bound (grammar.expression true)
        return .foreign .plain

def array (grammar : Grammar) : TokenReader Formula := do
  inside .brackets do
    unless ← ask finished do
      let _ ← grammar.expression true
      if ← trySign ";" then
        let _ ← grammar.expression true
      else
        unless ← ask finished do
          takeSign ","
          let _ ← listed grammar.bound (grammar.expression true)
  return .foreign .plain

/-! ## Closures and control flow -/

/-- Parameters of a closure, its result type and its body. -/
def closure (grammar : Grammar) (hasStructures : Bool) :
    TokenReader Formula := do
  if ← ask (keyword "for") then
    grammar.boundLifetimes
  let _ ← tryKeyword "const"
  let _ ← tryKeyword "static"
  let _ ← tryKeyword "async"
  let _ ← tryKeyword "move"
  takeSign "|"
  let parameter : TokenReader Unit := do
    grammar.outerAttributes
    grammar.pattern
    if ← trySign ":" then
      grammar.type true
  let _ ← separatedUntil grammar.bound (sign "|") "," parameter
  takeSign "|"
  if ← trySign "->" then
    grammar.type true
    grammar.block false
  else
    let _ ← grammar.expression hasStructures
  return .foreign .plain

def beginsClosure : Ahead := fun tokens =>
  sign "|" tokens || anyKeyword ["move", "static"] tokens ||
    keyword "for" tokens && second (sign "<") tokens &&
      (third lifetime tokens || third (sign ">") tokens) ||
    keyword "const" tokens && !second (bracketed .braces) tokens ||
    keyword "async" tokens &&
      (second (sign "|") tokens || second (keyword "move") tokens)

/-- A condition with the block it decides on, and with what happens
otherwise. -/
def conditional (grammar : Grammar) : TokenReader Unit := do
  let branch : TokenReader Unit := do
    takeKeyword "if"
    let _ ← grammar.expression false
    grammar.block false
  branch
  let _ ← iterate
    (fun isComplete => do
      if isComplete || !(← ask (keyword "else")) then
        return none
      else
        takeKeyword "else"
        if ← ask (keyword "if") then
          branch
          return some false
        else
          grammar.block false
          return some true)
    grammar.bound false

def whileLoop (grammar : Grammar) : TokenReader Unit := do
  takeKeyword "while"
  let _ ← grammar.expression false
  grammar.block true

def forLoop (grammar : Grammar) : TokenReader Unit := do
  takeKeyword "for"
  grammar.alternatives
  takeKeyword "in"
  let _ ← grammar.expression false
  grammar.block true

/-- Whether an expression ends by itself, so that nothing has to separate it
from what follows. -/
def endsItself : Formula → Bool
  | .foreign .block => true
  | _ => false

/-- One arm of a match: a pattern, a guard and what it leads to. -/
def matchArm (grammar : Grammar) : TokenReader Unit := do
  grammar.outerAttributes
  grammar.alternatives
  if ← tryKeyword "if" then
    let _ ← grammar.expression true
  takeSign "=>"
  let result ← grammar.leading
  if ← ask (fun tokens => !endsItself result && !finished tokens) then
    takeSign ","
  else
    let _ ← trySign ","

def matchArms (grammar : Grammar) : TokenReader Unit := do
  takeKeyword "match"
  let _ ← grammar.expression false
  inside .braces do
    grammar.innerAttributes
    whileAhead grammar.bound (fun tokens => !finished tokens) grammar.matchArm

def binding (grammar : Grammar) : TokenReader Unit := do
  takeKeyword "let"
  grammar.alternatives
  takeSign "="
  let _ ← grammar.expression false

/-- Whether an expression that leaves something has no value to take along. -/
def leavesEmpty : Ahead := fun tokens =>
  finished tokens || sign "," tokens || sign ";" tokens

/-- An expression that begins with a keyword, if there is one for it. -/
def controlFlow (grammar : Grammar) (hasStructures : Bool) :
    TokenReader Formula := do
  if ← tryKeyword "break" then
    tryLifetime
    unless ← ask (fun tokens =>
        leavesEmpty tokens || !hasStructures && bracketed .braces tokens) do
      let _ ← grammar.expression hasStructures
    return .foreign .plain
  else if ← tryKeyword "continue" then
    tryLifetime
    return .foreign .plain
  else if ← tryKeyword "return" then
    unless ← ask leavesEmpty do
      let _ ← grammar.expression true
    return .foreign .plain
  else if ← tryKeyword "yield" then
    unless ← ask leavesEmpty do
      let _ ← grammar.expression true
    return .foreign .plain
  else if ← ask (keyword "let") then
    grammar.binding
    return .foreign .plain
  else if ← ask (keyword "if") then
    grammar.conditional
    return .foreign .block
  else if ← ask (keyword "while") then
    grammar.whileLoop
    return .foreign .block
  else if ← ask (keyword "for") then
    grammar.forLoop
    return .foreign .block
  else if ← tryKeyword "loop" then
    grammar.block true
    return .foreign .block
  else if ← ask (keyword "match") then
    grammar.matchArms
    return .foreign .block
  else if ← tryKeyword "unsafe" then
    grammar.block true
    return .foreign .block
  else
    takeKeyword "const"
    grammar.block true
    return .foreign .plain

def labelled (grammar : Grammar) : TokenReader Formula := do
  takeLifetime
  takeSign ":"
  if ← ask (keyword "while") then
    grammar.whileLoop
  else if ← ask (keyword "for") then
    grammar.forLoop
  else
    let _ ← tryKeyword "loop"
    grammar.block true
  return .foreign .block

/-! ## Operands -/

def constantOf : Token → Constant
  | .literal .integer spelling => .integer spelling
  | .literal .decimal spelling => .decimal spelling
  | .word text => .boolean (text == "true")
  | token => .text token.text

/-- Whether an invisible group comes next that is an operand by itself. It is
none if it begins a path, an invocation or a structure. -/
def beginsGroup : Ahead := fun tokens =>
  invisible tokens && !second (sign "::") tokens && !second (sign "!") tokens &&
    !second (bracketed .braces) tokens

def atom (grammar : Grammar) (hasStructures : Bool) : TokenReader Formula := do
  if ← ask beginsGroup then
    return .grouped (← insideInvisible (grammar.expression true))
  else if ← ask literal then
    return .constant (constantOf (← takeLiteral))
  else if ← ask (fun tokens =>
      keyword "async" tokens &&
        (second (bracketed .braces) tokens ||
          second (keyword "move") tokens &&
            third (bracketed .braces) tokens)) then
    takeKeyword "async"
    let _ ← tryKeyword "move"
    grammar.block false
    return .foreign .block
  else if ← ask (fun tokens =>
      keyword "try" tokens && second (bracketed .braces) tokens) then
    takeKeyword "try"
    grammar.block false
    return .foreign .block
  else if ← ask beginsClosure then
    grammar.closure hasStructures
  else if ← ask typeWord then
    grammar.named hasStructures
  else if ← ask (bracketed .parentheses) then
    grammar.parenthesized
  else if ← ask (bracketed .brackets) then
    grammar.array
  else if ← ask (bracketed .braces) then
    grammar.block true
    return .foreign .block
  else if ← ask (sign "..") then
    rangeOperator
    unless ← ask (isOpenRange hasStructures) do
      let _ ← grammar.expression hasStructures
    return .foreign .range
  else if ← tryKeyword "_" then
    return .foreign .plain
  else if ← ask lifetime then
    grammar.labelled
  else
    grammar.controlFlow hasStructures

/-- The formula with attributes in front of it. Only a path keeps them, as it
is taken over as it is. -/
def attributed (attributes : List Token) : Formula → Formula
  | .path (.segments tokens) => .path (.segments (attributes ++ tokens))
  | formula => formula

def nextPrefix? (tokens : List Token) : Option (String × UnaryOperator) :=
  [("*", .dereference), ("!", .complement), ("-", .negate)].find?
    fun (spelling, _) => sign spelling tokens

def unaryStep (grammar : Grammar) (hasStructures : Bool) :
    TokenReader Formula := do
  let (_, attributes) ← spelled grammar.expressionAttributes
  if ← trySign "&" then
    if ← ask (fun tokens =>
        keyword "raw" tokens &&
          (second (keyword "mut") tokens ||
            second (keyword "const") tokens)) then
      let _ ← takeWord
      let _ ← takeWord
    else
      let _ ← tryKeyword "mut"
    let _ ← grammar.unary hasStructures
    return .foreign .plain
  else if ← tryKeyword "box" then
    let _ ← grammar.unary hasStructures
    return .foreign .plain
  else
    match nextPrefix? (← ahead) with
    | some (spelling, operator) =>
        takeSign spelling
        return .unary operator (← grammar.unary hasStructures)
    | none =>
        let operand ← grammar.atom hasStructures
        return attributed attributes (← grammar.postfixes operand)

/-- An expression at the beginning of a statement or behind the arrow of a
match. One that is a block ends there unless a dot or a question mark goes on
with it. -/
def leadingStep (grammar : Grammar) : TokenReader Formula := do
  grammar.expressionAttributes
  let isBlock ← ask fun tokens =>
    anyKeyword ["if", "while", "for", "loop", "match", "unsafe"] tokens &&
        !beginsClosure tokens ||
      anyKeyword ["try", "const"] tokens && second (bracketed .braces) tokens ||
      bracketed .braces tokens
  if isBlock then
    let first ← grammar.atom true
    if ← ask (fun tokens =>
        sign "." tokens && !sign ".." tokens || sign "?" tokens) then
      grammar.continuationFrom .none true (← grammar.postfixes first)
    else
      return first
  else
    let first ← grammar.unaryStep true
    grammar.continuationFrom .none true first

def expressionStep (grammar : Grammar) (hasStructures : Bool) :
    TokenReader Formula := do
  let first ← grammar.unaryStep hasStructures
  grammar.continuationFrom .none hasStructures first

end Grammar

end Shaderwright.Formula
