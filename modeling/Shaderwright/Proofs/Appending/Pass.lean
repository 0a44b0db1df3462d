import Shaderwright.Lowering

/-!
Lowering as one pass over a state. The local variables stand in the state, the
definitions of the functions are one text behind the other, and all that is
written is appended to a buffer. A function is written to a buffer of its own
and under local variables of its own; the outer ones are put back by hand.
Events are left out.
-/

namespace Shaderwright

/-! ## States and steps -/

/-- The state of the pass. -/
structure Pass where
  locals : Locals
  symbols : SymbolTable
  functions : List ShaderFunction
  functionSources : String

namespace Pass

/-- Nothing has been met in a body with the given local variables. -/
def start (locals : Locals) : Pass := ⟨locals, .empty, [], ""⟩

def function? (pass : Pass) (name : String) : Option ShaderFunction :=
  pass.functions.find? fun known => known.name == name

/-- Adds a function behind its callees. -/
def withFunction (pass : Pass) (function : ShaderFunction) (text : String) :
    Pass :=
  { pass with
    functions := pass.functions ++ [function]
    functionSources := pass.functionSources ++ text }

end Pass

/-- A step of the pass. -/
abbrev Passing : Type → Type :=
  StateT Pass (Except LoweringError)

/-- A step of the pass that appends to a buffer. -/
abbrev Writing : Type → Type :=
  StateT String Passing

def write (text : String) : Writing Unit :=
  modify fun buffer => buffer ++ text

namespace Writing

/-- What stands in a buffer after a step that appends to it. -/
def textFrom (writing : Writing Unit) (buffer : String) :
    Passing String := do
  let ((), text) ← writing.run buffer
  return text

/-- Runs a step that appends to a buffer, from a state of the pass. -/
def runFrom (writing : Writing Unit) (pass : Pass) (buffer : String) :
    Except LoweringError (String × Pass) :=
  (writing.textFrom buffer).run pass

end Writing

/-- Puts local variables in the place of others, which are returned. -/
def replaceLocals (locals : Locals) : Passing Locals := do
  let pass ← get
  set { pass with locals }
  return pass.locals

/-- Makes a step under other local variables and puts the former ones back. -/
def underLocals {α : Type} (locals : Locals) (step : Passing α) :
    Passing α := do
  let outer ← replaceLocals locals
  let value ← step
  let _ ← replaceLocals outer
  return value

/-- Records a parameter as a symbol of the stage. -/
def passSymbol (target : Target) (parameter : Parameter) :
    Passing Unit := do
  if 0 < parameter.arrayLength ∧ parameter.qualifier ≠ .constant then
    throw <|
      .unsupportedDeclaration parameter.name parameter.qualifier
        parameter.arrayLength
  let _ ← target.typeKeyword parameter.type parameter.name
  let _ ← target.qualifierKeyword parameter.qualifier parameter.name
  let pass ← get
  let (_, symbols) ← pass.symbols.insert parameter
  set { pass with symbols }

/-- Meets a parameter, which becomes a symbol of the stage unless it is
local. -/
def meetParameter (target : Target) (parameter : Parameter) :
    Passing Unit := do
  let isLocal ← (← get).locals.isLocal parameter
  if !isLocal then
    passSymbol target parameter

/-- Fails unless a target can be assigned in the body that is written. -/
def meetTarget (assigned : Operand) : Passing Unit := do
  checkTarget (← get).locals assigned

/-- Adds a function unless a callee has taken its name. -/
def addFunction (function : ShaderFunction) (text : String) :
    Passing Unit := do
  let pass ← get
  if (pass.function? function.name).isSome then
    throw (.inconsistentFunction function.name)
  set (pass.withFunction function text)

/-! ## Writers -/

/-- Writes an operand, in parentheses if it is nested and has an infix
operator. -/
def Operand.writeNested (operand : Operand) (nested : Bool)
    (writing : Writing Unit) : Writing Unit :=
  if nested && operand.isInfix then do
    write "("
    writing
    write ")"
  else
    writing

/-- Writes an assignment target, which may be a declaration. -/
def Operand.writeAssigned (assigned : Operand) (target : Target)
    (writing : Writing Unit) : Writing Unit :=
  match assigned.declared? with
  | some symbol => do
      write (← target.variableText symbol)
  | none => writing

/-- Writes an operation that has a value, at its position. -/
def Position.writeExpression (position : Position)
    (writing : Writing Unit) : Writing Unit :=
  match position with
  | statement level => do
      write (indentation level)
      writing
      write ";\n"
  | value => writing

def writeCall (name : String) (arguments : Writing Unit) :
    Writing Unit := do
  write (name ++ "(")
  arguments
  write ")"

/-- Writes numbers behind the source of a conversion. -/
def writePadding (pad : Binary32) : Nat → Writing Unit
  | 0 => pure ()
  | count + 1 => do
      write (", " ++ (← numberText pad))
      writePadding pad count

mutual

def writeOperand (target : Target) : Operand → Writing Unit
  | .parameter symbol => do
      meetParameter target symbol
      write symbol.name
  | .literal literal => do
      write (← target.literalText literal)
  | .builtIn source => do
      write (← lowerBuiltIn target source)
  | .operation node => writeOperation target .value node
  | .raw text => write text

def writeOperation (target : Target) (position : Position) :
    Operation → Writing Unit
  | .assign operator assigned value =>
      position.writeExpression do
        meetTarget assigned
        assigned.writeAssigned target (writeOperand target assigned)
        write (" " ++ operator.symbol ++ " ")
        writeOperand target value
  | .declare symbol => do
      let level ← position.level .declaration
      write (indentation level)
      write (← target.sizedVariableText symbol)
      write ";\n"
  | .arithmetic operator operands =>
      position.writeExpression do
        if operands.length < 2 then
          throw (.arityMismatch operator.symbol 2 operands.length)
        else
          writeOperands target true "" (" " ++ operator.symbol ++ " ")
            operands
  | .compare operator left right =>
      position.writeExpression do
        left.writeNested true (writeOperand target left)
        write (" " ++ operator.symbol ++ " ")
        right.writeNested true (writeOperand target right)
  | .select base suffix =>
      position.writeExpression do
        base.writeNested true (writeOperand target base)
        write suffix
  | .builtIn function arguments =>
      if function = .discard then do
        let level ← position.level .discard
        checkArity function.keyword function.arity arguments.length
        write (indentation level ++ "discard;\n")
      else
        position.writeExpression do
          checkArity function.keyword function.arity arguments.length
          writeCall (target.dialect.functionName function)
            (writeOperands target false "" ", " arguments)
  | .ifThen condition body => do
      let level ← position.level .conditional
      write (indentation level ++ "if (")
      writeOperand target condition
      write ") \x7b\n"
      writeBody target (level + 1) body
      write (indentation level ++ "\x7d\n")
  | .ifElse condition body alternative => do
      let level ← position.level .conditional
      write (indentation level ++ "if (")
      writeOperand target condition
      write ") \x7b\n"
      writeBody target (level + 1) body
      write (indentation level ++ "\x7d else \x7b\n")
      writeBody target (level + 1) alternative
      write (indentation level ++ "\x7d\n")
  | .loop initial condition step body => do
      let level ← position.level .loop
      write <| indentation level ++ "for (" ++ initial ++ "; " ++
        condition ++ "; " ++ step ++ ") \x7b\n"
      writeBody target (level + 1) body
      write (indentation level ++ "\x7d\n")
  | .returnValue value => do
      let level ← position.level .return
      write (indentation level ++ "return ")
      writeOperand target value
      write ";\n"
  | .returnVoid => do
      let level ← position.level .return
      write (indentation level ++ "return;\n")
  | .call function arguments =>
      position.writeExpression do
        checkArity function.name function.parameters.length
          arguments.length
        passFunction target function
        writeCall function.name
          (writeOperands target false "" ", " arguments)
  | .construct type operands =>
      position.writeExpression do
        checkComponents type operands
        let keyword ← target.typeKeyword type "constructor"
        writeCall keyword (writeOperands target false "" ", " operands)
  | .convert source type pad =>
      position.writeExpression do
        let missing ← conversionPadding source type
        let keyword ← target.typeKeyword type "conversion"
        writeCall keyword do
          writeOperand target source
          writePadding pad missing

/-- Hoists a function the first time it is called. -/
def passFunction (target : Target) : ShaderFunction → Passing Unit
  | ⟨handle, name, returnType, parameters, body⟩ => do
      let function : ShaderFunction :=
        ⟨handle, name, returnType, parameters, body⟩
      match (← get).function? name with
      | some known =>
          if known.handle == handle || known.equals function then
            return ()
          else
            throw (.inconsistentFunction name)
      | none => do
          let inner ← Locals.ofBody parameters body
          let text ← underLocals inner do
            let signature ← target.signatureText name returnType parameters
            (writeBody target 1 body).textFrom ("\n" ++ signature)
          addFunction function (text ++ "\x7d\n")

/-- Writes operands with a text in front of the first one and a separator in
front of each further one. -/
def writeOperands (target : Target) (nested : Bool)
    (lead separator : String) : List Operand → Writing Unit
  | [] => pure ()
  | operand :: rest => do
      write lead
      operand.writeNested nested (writeOperand target operand)
      writeOperands target nested separator separator rest

def writeBody (target : Target) (level : Nat) :
    List Operation → Writing Unit
  | [] => pure ()
  | operation :: rest => do
      writeOperation target (.statement level) operation
      writeBody target level rest

end

/-! ## Whole shaders -/

/-- Writes the parts of a shader, of which the local variables are in place:
the body of the entry point first, to a buffer of its own, and then all that
stands in front of it. -/
def writeParts (dialect : Dialect) (shader : Shader) :
    Passing CompiledShader := do
  let target : Target := ⟨dialect, shader.stage⟩
  let body ← (writeBody target 1 shader.operations).textFrom ""
  let precision ← target.precisionText shader.precision
  let pass ← get
  let symbols := pass.symbols.symbols
  let declared : Except LoweringError (List String) :=
    symbols.mapM target.declarationText
  let declarations ← declared
  let source :=
    precision ++ String.join declarations ++ pass.functionSources ++
      "\nvoid " ++ dialect.entryPoint ++ "() \x7b\n" ++ body ++ "\x7d\n"
  return ⟨shader.stage, source, symbols,
    pass.functions.map ShaderFunction.name⟩

/-- Writes a shader. -/
def writeShader (dialect : Dialect) (shader : Shader) :
    Except LoweringError CompiledShader := do
  let locals ← Locals.ofBody [] shader.operations
  (writeParts dialect shader).run' (.start locals)

end Shaderwright
