import Shaderwright.Dialect
import Shaderwright.Event
import Shaderwright.Lowering.Locals
import Shaderwright.SymbolTable
import Shaderwright.Tree.Equality
import Shaderwright.Tree.Typing

/-!
Lowering a shader tree to the source text of its stage. The tree is walked in
the order of the text. Parameters that are not local become symbols of the
stage, and called functions are defined ahead of the entry point, callees
first; both happen once for each name. The first fault ends the walk.
-/

namespace Shaderwright

-- Sums start from the zero of `Nat` itself, whatever monoids are in scope.
attribute [local instance (high)] Zero.ofOfNat0

/-! ## Targets, progress and results -/

structure Target where
  dialect : Dialect
  stage : Stage

/-- A function with the text of its definition. -/
structure Definition where
  function : ShaderFunction
  text : String

/-- What the walk has met so far: symbols and functions in the order in which
they were met, and the events on the way. -/
structure Progress where
  symbols : SymbolTable
  definitions : List Definition
  events : List Event

namespace Progress

def start : Progress := ⟨.empty, [], []⟩

/-- The definition of a function name, if there is one already. -/
def definition? (progress : Progress) (name : String) :
    Option Definition :=
  progress.definitions.find? fun known => known.function.name == name

def record (progress : Progress) (event : Event) : Progress :=
  { progress with events := progress.events ++ [event] }

end Progress

/-- A step of the walk. Progress survives a fault, because its events do. -/
abbrev Lowering : Type → Type :=
  EStateM LoweringError Progress

/-- A check inside the walk. -/
def Lowering.check {α : Type} (result : Except LoweringError α) :
    Lowering α :=
  match result with
  | .ok value => pure value
  | .error fault => throw fault

/-- The source text of a stage with its symbols and its functions, in order of
declaration. -/
structure CompiledShader where
  stage : Stage
  source : String
  symbols : List Symbol
  functions : List String
deriving DecidableEq, Repr

def CompiledShader.symbol? (compiled : CompiledShader) (name : String) :
    Option Symbol :=
  compiled.symbols.find? fun symbol => symbol.name == name

/-! ## Words and literals -/

namespace Target

def typeKeyword (target : Target) (type : ShaderType) (usedBy : String) :
    Except LoweringError String :=
  match target.dialect.types type with
  | some word => .ok word
  | none => .error (.unmappableType target.dialect.name usedBy type)

def qualifierKeyword (target : Target) (qualifier : Qualifier)
    (usedBy : String) : Except LoweringError String :=
  match target.dialect.qualifiers qualifier with
  | some word => .ok word
  | none =>
      .error (.unmappableQualifier target.dialect.name usedBy qualifier)

/-- The line that sets the default precision of a stage. -/
def precisionText (target : Target) :
    Option Precision → Except LoweringError String
  | none => .ok ""
  | some precision =>
      match target.dialect.precisions precision with
      | some word => .ok ("precision " ++ word ++ " float;\n")
      | none =>
          .error (.unmappablePrecision target.dialect.name precision)

/-- The line that declares a symbol of the stage. -/
def declarationText (target : Target) (symbol : Symbol) :
    Except LoweringError String := do
  let qualifier ← target.qualifierKeyword symbol.qualifier symbol.name
  let type ← target.typeKeyword symbol.type symbol.name
  return qualifier ++ " " ++ type ++ " " ++ symbol.name ++
    arraySuffix symbol.arrayLength ++ ";\n"

def variableText (target : Target) (symbol : Parameter) :
    Except LoweringError String := do
  let type ← target.typeKeyword symbol.type symbol.name
  return type ++ " " ++ symbol.name

/-- The type and the name of a variable, with its array length. -/
def sizedVariableText (target : Target) (symbol : Parameter) :
    Except LoweringError String := do
  let text ← target.variableText symbol
  return text ++ arraySuffix symbol.arrayLength

/-- The first line of the definition of a function. -/
def signatureText (target : Target) (name : String)
    (returnType : Option ShaderType) (parameters : List Parameter) :
    Except LoweringError String := do
  let type ← match returnType with
    | some type => target.typeKeyword type name
    | none => pure "void"
  let parameters ← parameters.mapM target.sizedVariableText
  return type ++ " " ++ name ++ "(" ++ ", ".intercalate parameters ++
    ") \x7b\n"

end Target

def callText (name : String) (arguments : List String) : String :=
  name ++ "(" ++ ", ".intercalate arguments ++ ")"

def numberText (value : Binary32) : Except LoweringError String :=
  match value.literalText? with
  | some text => .ok text
  | none => .error (.nonFiniteLiteral value)

def Target.literalText (target : Target) (literal : Literal) :
    Except LoweringError String :=
  match literal with
  | .scalar value => numberText value
  | .boolean value => .ok (if value then "true" else "false")
  | _ => do
      let keyword ← target.typeKeyword literal.type "literal"
      let numbers ← literal.components.mapM numberText
      return callText keyword numbers

/-! ## Checks -/

/-- Fails unless a call has the wanted number of arguments. -/
def checkArity (name : String) (expected found : Nat) :
    Except LoweringError Unit :=
  if expected = found then
    .ok ()
  else
    .error (.arityMismatch name expected found)

/-- The component counts of a list of operands, if all are known. -/
def componentCounts? : List Operand → Option (List Nat)
  | [] => some []
  | operand :: rest =>
      match operand.components?, componentCounts? rest with
      | some count, some counts => some (count :: counts)
      | _, _ => none

/-- Fails if the operands of a constructor are known not to have the wanted
number of components in all. A single scalar fills every component. -/
def checkComponents (type : ShaderType) (operands : List Operand) :
    Except LoweringError Unit :=
  match componentCounts? operands with
  | none => .ok ()
  | some counts =>
      let found := counts.sum
      if found = type.size ∨ operands.length = 1 ∧ found = 1 then
        .ok ()
      else
        .error (.componentMismatch type type.size found)

local instance decidableLTOptionNat : DecidableLT (Option Nat) :=
  inferInstanceAs (DecidableRel (Option.lt (· < ·)))

/-- The number of components that a conversion adds. The source must have a
known number of them, and the target no fewer; no number is less than any
number. -/
def conversionPadding (source : Operand) (target : ShaderType) :
    Except LoweringError Nat :=
  match source.type?.filter fun type => type.components?.isSome with
  | none => .error (.unknownConversionSource target)
  | some type =>
      if target.components? < type.components? then
        .error (.shrinkingConversion type target)
      else
        match missingComponents? source target with
        | none => .error (.unknownConversionSource target)
        | some missing => .ok missing

section Padding

variable {source : Operand} {type target : ShaderType}

/-- What is missing is known where the source has a known number of components
and the target no fewer: the second test for an unknown source never fails. -/
theorem missingComponents?_isSome
    (known : (source.type?.filter fun type => type.components?.isSome) =
      some type)
    (fits : ¬ target.components? < type.components?) :
    (missingComponents? source target).isSome = true := by
  obtain ⟨typed, counted⟩ := Option.filter_eq_some_iff.mp known
  obtain ⟨found, found_eq⟩ := Option.isSome_iff_exists.mp counted
  cases wanted_eq : target.components? with
  | none =>
      simp [wanted_eq, found_eq] at fits
  | some wanted =>
      simp [missingComponents?, Operand.components?, typed, found_eq,
        wanted_eq]

theorem conversionPadding_of_unknown (unknown : source.components? = none) :
    conversionPadding source target =
      .error (.unknownConversionSource target) := by
  have untyped :
      (source.type?.filter fun type => type.components?.isSome) = none := by
    rw [Option.filter_eq_none_iff]
    intro type typed
    simpa [Operand.components?, typed] using unknown
  rw [conversionPadding, untyped]

theorem conversionPadding_of_known {found : Nat}
    (typed : source.type? = some type)
    (counted : type.components? = some found) :
    conversionPadding source target =
      match target.components? with
      | none => .error (.shrinkingConversion type target)
      | some wanted =>
          if wanted < found then
            .error (.shrinkingConversion type target)
          else
            .ok (wanted - found) := by
  have known : (source.type?.filter fun type => type.components?.isSome) =
      some type := by
    simp [Option.filter_eq_some_iff, typed, counted]
  rw [conversionPadding, known]
  cases wanted_eq : target.components? with
  | none =>
      simp [counted]
  | some wanted =>
      simp [missingComponents?, Operand.components?, typed, counted,
        wanted_eq]

end Padding

/-- What an assignment target selects from. -/
def Operand.selectionRoot : Operand → Operand
  | .operation (.select base _) => base.selectionRoot
  | other => other

/-- Fails unless a target can be assigned: a local variable, a varying, a
writable built-in variable, a declaration, or a selection from one of them. -/
def checkTarget (locals : Locals) (target : Operand) :
    Except LoweringError Unit :=
  match target.selectionRoot with
  | .parameter symbol => do
      let isLocal ← locals.isLocal symbol
      if isLocal || symbol.qualifier == .varying then
        return ()
      else
        throw <| .invalidTarget (.parameter symbol.qualifier symbol.name)
  | .builtIn source =>
      if source.isWritable then
        .ok ()
      else
        .error (.invalidTarget (.builtIn source))
  | .operation (.declare _) => .ok ()
  | .operation _ => .error (.invalidTarget .operation)
  | .literal literal => .error (.invalidTarget (.literal literal.type))
  | .raw text => .error (.invalidTarget (.raw text))

/-- The parameter that an assignment target declares. -/
def Operand.declared? : Operand → Option Parameter
  | .operation (.declare symbol) => some symbol
  | _ => none

/-- Whether an operand is written with an infix operator. -/
def Operand.isInfix : Operand → Bool
  | .operation node => node.isInfix
  | _ => false

/-- The text of an operand of an operator, or of the base of a selection. -/
def Operand.parenthesized (operand : Operand) (text : String) : String :=
  if operand.isInfix then "(" ++ text ++ ")" else text

def parenthesizedAll : List Operand → List String → List String
  | operand :: operands, text :: texts =>
      operand.parenthesized text :: parenthesizedAll operands texts
  | _, _ => []

/-! ## Statements and values -/

/-- Where an operation stands: as a statement at a level of indentation, or
where a value is wanted. -/
inductive Position where
  | statement (level : Nat)
  | value
deriving DecidableEq, Repr

/-- Two spaces a level. -/
def indentation (level : Nat) : String :=
  String.ofList (List.replicate (2 * level) ' ')

/-- The text of an operation that has a value, at its position. -/
def Position.expression (position : Position) (text : String) : String :=
  match position with
  | statement level => indentation level ++ text ++ ";\n"
  | value => text

/-- The level of a position that admits statements. -/
def Position.level (position : Position) (kind : StatementKind) :
    Except LoweringError Nat :=
  match position with
  | statement level => .ok level
  | value => .error (.statementAsValue kind)

/-! ## The walk -/

/-- Records a parameter as a symbol of the stage. -/
def hoistParameter (target : Target) (parameter : Parameter) :
    Lowering Unit := do
  if 0 < parameter.arrayLength ∧ parameter.qualifier ≠ .constant then
    throw <|
      .unsupportedDeclaration parameter.name parameter.qualifier
        parameter.arrayLength
  let _ ← Lowering.check <|
    target.typeKeyword parameter.type parameter.name
  let _ ← Lowering.check <|
    target.qualifierKeyword parameter.qualifier parameter.name
  let progress ← get
  let (isNew, symbols) ← Lowering.check <|
    progress.symbols.insert parameter
  if isNew then
    set <|
      { progress with symbols := symbols }.record
        (.symbolHoisted parameter.symbol)

/-- The name of a parameter, which becomes a symbol of the stage unless it is
local. -/
def lowerParameter (target : Target) (locals : Locals)
    (parameter : Parameter) : Lowering String := do
  let isLocal ← Lowering.check (locals.isLocal parameter)
  if !isLocal then
    hoistParameter target parameter
  return parameter.name

/-- The name of a built-in variable, which has to exist in the stage. -/
def lowerBuiltIn (target : Target) (source : BuiltInVariable) :
    Except LoweringError String :=
  if source.availableIn target.stage then
    .ok (target.dialect.builtInName source target.stage)
  else
    .error (.stageMismatch source target.stage)

/-- Adds a function behind its callees. A callee may have taken its name while
its body was lowered. -/
def addDefinition (definition : Definition) : Lowering Unit := do
  let progress ← get
  let function := definition.function
  if (progress.definition? function.name).isSome then
    throw (.inconsistentFunction function.name)
  set <|
    { progress with
        definitions := progress.definitions ++ [definition] }.record
      (.functionHoisted function.name function.parameters.length)

mutual

def lowerOperand (target : Target) (locals : Locals) :
    Operand → Lowering String
  | .parameter symbol => lowerParameter target locals symbol
  | .literal literal => Lowering.check (target.literalText literal)
  | .builtIn source => Lowering.check (lowerBuiltIn target source)
  | .operation node => lowerOperation target locals .value node
  | .raw text => pure text

def lowerOperation (target : Target) (locals : Locals)
    (position : Position) : Operation → Lowering String
  | .assign operator assigned value => do
      Lowering.check (checkTarget locals assigned)
      let left ← match assigned.declared? with
        | some symbol => Lowering.check (target.variableText symbol)
        | none => lowerOperand target locals assigned
      let right ← lowerOperand target locals value
      return position.expression <|
        left ++ " " ++ operator.symbol ++ " " ++ right
  | .declare symbol => do
      let level ← Lowering.check (position.level .declaration)
      let text ← Lowering.check (target.sizedVariableText symbol)
      return indentation level ++ text ++ ";\n"
  | .arithmetic operator operands => do
      if operands.length < 2 then
        throw (.arityMismatch operator.symbol 2 operands.length)
      let texts ← lowerOperands target locals operands
      return position.expression <|
        (" " ++ operator.symbol ++ " ").intercalate
          (parenthesizedAll operands texts)
  | .compare operator left right => do
      let leftText ← lowerOperand target locals left
      let rightText ← lowerOperand target locals right
      return position.expression <|
        left.parenthesized leftText ++ " " ++ operator.symbol ++ " " ++
          right.parenthesized rightText
  | .select base suffix => do
      let text ← lowerOperand target locals base
      return position.expression (base.parenthesized text ++ suffix)
  | .builtIn function arguments =>
      if function = .discard then do
        let level ← Lowering.check (position.level .discard)
        Lowering.check <|
          checkArity function.keyword function.arity arguments.length
        return indentation level ++ "discard;\n"
      else do
        Lowering.check <|
          checkArity function.keyword function.arity arguments.length
        let texts ← lowerOperands target locals arguments
        return position.expression <|
          callText (target.dialect.functionName function) texts
  | .ifThen condition body => do
      let level ← Lowering.check (position.level .conditional)
      let test ← lowerOperand target locals condition
      let inner ← lowerBody target locals (level + 1) body
      return indentation level ++ "if (" ++ test ++ ") \x7b\n" ++ inner ++
        indentation level ++ "\x7d\n"
  | .ifElse condition body alternative => do
      let level ← Lowering.check (position.level .conditional)
      let test ← lowerOperand target locals condition
      let inner ← lowerBody target locals (level + 1) body
      let other ← lowerBody target locals (level + 1) alternative
      return indentation level ++ "if (" ++ test ++ ") \x7b\n" ++ inner ++
        indentation level ++ "\x7d else \x7b\n" ++ other ++
        indentation level ++ "\x7d\n"
  | .loop initial condition step body => do
      let level ← Lowering.check (position.level .loop)
      let inner ← lowerBody target locals (level + 1) body
      return indentation level ++ "for (" ++ initial ++ "; " ++
        condition ++ "; " ++ step ++ ") \x7b\n" ++ inner ++
        indentation level ++ "\x7d\n"
  | .returnValue value => do
      let level ← Lowering.check (position.level .return)
      let text ← lowerOperand target locals value
      return indentation level ++ "return " ++ text ++ ";\n"
  | .returnVoid => do
      let level ← Lowering.check (position.level .return)
      return indentation level ++ "return;\n"
  | .call function arguments => do
      Lowering.check <|
        checkArity function.name function.parameters.length
          arguments.length
      hoistFunction target function
      let texts ← lowerOperands target locals arguments
      return position.expression (callText function.name texts)
  | .construct type operands => do
      Lowering.check (checkComponents type operands)
      let keyword ← Lowering.check (target.typeKeyword type "constructor")
      let texts ← lowerOperands target locals operands
      return position.expression (callText keyword texts)
  | .convert source type pad => do
      let missing ← Lowering.check (conversionPadding source type)
      let keyword ← Lowering.check (target.typeKeyword type "conversion")
      let text ← lowerOperand target locals source
      let padding ← Lowering.check <|
        (List.replicate missing pad).mapM numberText
      return position.expression (callText keyword (text :: padding))

/-- Defines a function the first time it is called. A name that is defined
already has to belong to the same function or to an equal one. -/
def hoistFunction (target : Target) : ShaderFunction → Lowering Unit
  | ⟨handle, name, returnType, parameters, body⟩ => do
      let function : ShaderFunction :=
        ⟨handle, name, returnType, parameters, body⟩
      match (← get).definition? name with
      | some known =>
          if known.function.handle == handle ||
              known.function.equals function then
            return ()
          else
            throw (.inconsistentFunction name)
      | none => do
          let locals ← Lowering.check (Locals.ofBody parameters body)
          let signature ← Lowering.check <|
            target.signatureText name returnType parameters
          let text ← lowerBody target locals 1 body
          addDefinition
            ⟨function, "\n" ++ signature ++ text ++ "\x7d\n"⟩

def lowerOperands (target : Target) (locals : Locals) :
    List Operand → Lowering (List String)
  | [] => pure []
  | operand :: rest => do
      let text ← lowerOperand target locals operand
      let texts ← lowerOperands target locals rest
      return text :: texts

/-- The text of a list of statements at a level of indentation. -/
def lowerBody (target : Target) (locals : Locals) (level : Nat) :
    List Operation → Lowering String
  | [] => pure ""
  | operation :: rest => do
      let text ←
        lowerOperation target locals (.statement level) operation
      let texts ← lowerBody target locals level rest
      return text ++ texts

end

/-! ## Whole shaders -/

/-- Lowers a shader: the precision, the declarations of the symbols, the
definitions of the functions, and the entry point. -/
def lowerShader (dialect : Dialect) (shader : Shader) :
    Lowering CompiledShader := do
  let target : Target := ⟨dialect, shader.stage⟩
  let locals ← Lowering.check (Locals.ofBody [] shader.operations)
  let body ← lowerBody target locals 1 shader.operations
  let precision ← Lowering.check (target.precisionText shader.precision)
  let progress ← get
  let symbols := progress.symbols.symbols
  let declarations ← Lowering.check <|
    symbols.mapM target.declarationText
  let source :=
    precision ++ String.join declarations ++
      String.join (progress.definitions.map Definition.text) ++
      "\nvoid " ++ dialect.entryPoint ++ "() \x7b\n" ++ body ++ "\x7d\n"
  let functions :=
    progress.definitions.map fun known => known.function.name
  set <| progress.record <|
    .stageLowered shader.stage symbols.length functions.length
      source.utf8ByteSize
  return ⟨shader.stage, source, symbols, functions⟩

/-- The outcome of lowering a shader, with the events on the way. -/
def lowerWithEvents (dialect : Dialect) (shader : Shader) :
    Except LoweringError CompiledShader × List Event :=
  match (lowerShader dialect shader).run .start with
  | .ok compiled progress => (.ok compiled, progress.events)
  | .error fault progress => (.error fault, progress.events)

/-- Lowers a shader to source text of a dialect. -/
def lower (dialect : Dialect) (shader : Shader) :
    Except LoweringError CompiledShader :=
  (lowerWithEvents dialect shader).1

end Shaderwright
