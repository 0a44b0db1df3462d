import Shaderwright.Lowering

/-!
The walk over a tree as a list. A body is visited node by node in the order of
its text; each visit has a check of its own, and a visit may ask for a symbol
of the stage or for the definition of a function. What lowering does with a
body depends on this list alone.
-/

namespace Shaderwright

/-! ## Visits -/

/-- What the walk over a body meets. `introduced` is a declaration that is the
target of an assignment, and `padding` stands behind the source of a
conversion. -/
inductive Visit where
  | parameter (symbol : Parameter)
  | literal (value : Literal)
  | builtIn (source : BuiltInVariable)
  | introduced (symbol : Parameter)
  | operation (position : Position) (node : Operation)
  | padding (source : Operand) (type : ShaderType) (pad : Binary32)

/-- The level of indentation of a position. A value has none of its own. -/
def Position.depth : Position → Nat
  | statement level => level
  | value => 0

mutual

/-- The visits of an operand. Text that is taken over is not looked at. -/
def Operand.visits : Operand → List Visit
  | .parameter symbol => [.parameter symbol]
  | .literal value => [.literal value]
  | .builtIn source => [.builtIn source]
  | .operation node => node.visits .value
  | .raw _ => []

/-- The visits of an operation that stands at a position, itself first. -/
def Operation.visits (position : Position) : Operation → List Visit
  | .assign operator assigned value =>
      .operation position (.assign operator assigned value) ::
        ((match assigned.declared? with
          | some symbol => [.introduced symbol]
          | none => assigned.visits) ++ value.visits)
  | .declare symbol => [.operation position (.declare symbol)]
  | .arithmetic operator operands =>
      .operation position (.arithmetic operator operands) ::
        operandVisits operands
  | .compare operator left right =>
      .operation position (.compare operator left right) ::
        (left.visits ++ right.visits)
  | .select base suffix =>
      .operation position (.select base suffix) :: base.visits
  | .builtIn function arguments =>
      .operation position (.builtIn function arguments) ::
        operandVisits arguments
  | .ifThen condition body =>
      .operation position (.ifThen condition body) ::
        (condition.visits ++ bodyVisits (position.depth + 1) body)
  | .ifElse condition body alternative =>
      .operation position (.ifElse condition body alternative) ::
        (condition.visits ++
          (bodyVisits (position.depth + 1) body ++
            bodyVisits (position.depth + 1) alternative))
  | .loop initial condition step body =>
      .operation position (.loop initial condition step body) ::
        bodyVisits (position.depth + 1) body
  | .returnValue value =>
      .operation position (.returnValue value) :: value.visits
  | .returnVoid => [.operation position .returnVoid]
  | .call function arguments =>
      .operation position (.call function arguments) ::
        operandVisits arguments
  | .construct type operands =>
      .operation position (.construct type operands) ::
        operandVisits operands
  | .convert source type pad =>
      .operation position (.convert source type pad) ::
        (source.visits ++ [.padding source type pad])

/-- The visits of a list of operands. -/
def operandVisits : List Operand → List Visit
  | [] => []
  | operand :: rest => operand.visits ++ operandVisits rest

/-- The visits of a body at a level of indentation. -/
def bodyVisits (level : Nat) : List Operation → List Visit
  | [] => []
  | operation :: rest =>
      operation.visits (.statement level) ++ bodyVisits level rest

end

namespace Visit

/-- The function that a visit calls. -/
def callee? : Visit → Option ShaderFunction
  | .operation _ (.call function _) => some function
  | _ => none

/-- The parameter that a visit uses, unless it has the name of a local
variable. -/
def stageUse? (locals : Locals) : Visit → Option Parameter
  | .parameter symbol =>
      if (locals.find? symbol.name).isSome then none else some symbol
  | _ => none

end Visit

/-- The functions that a body calls itself, in the order of its text. -/
def bodyCallees (body : List Operation) : List ShaderFunction :=
  (bodyVisits 1 body).filterMap Visit.callee?

/-! ## Checks -/

/-- The outcome of a check without its result. -/
def outcome {α : Type} (result : Except LoweringError α) :
    Except LoweringError Unit :=
  result.map fun _ => ()

/-- What has to hold of an operation by itself, whatever its operands. -/
def Operation.check (target : Target) (locals : Locals)
    (position : Position) : Operation → Except LoweringError Unit
  | .assign _ assigned _ => checkTarget locals assigned
  | .declare symbol => do
      outcome (position.level .declaration)
      outcome (target.typeKeyword symbol.type symbol.name)
  | .arithmetic operator operands =>
      if operands.length < 2 then
        .error (.arityMismatch operator.symbol 2 operands.length)
      else
        .ok ()
  | .compare .. => .ok ()
  | .select .. => .ok ()
  | .builtIn function arguments => do
      if function = .discard then
        outcome (position.level .discard)
      checkArity function.keyword function.arity arguments.length
  | .ifThen .. => outcome (position.level .conditional)
  | .ifElse .. => outcome (position.level .conditional)
  | .loop .. => outcome (position.level .loop)
  | .returnValue _ => outcome (position.level .return)
  | .returnVoid => outcome (position.level .return)
  | .call function arguments =>
      checkArity function.name function.parameters.length arguments.length
  | .construct type operands => do
      checkComponents type operands
      outcome (target.typeKeyword type "constructor")
  | .convert source type _ => do
      outcome (conversionPadding source type)
      outcome (target.typeKeyword type "conversion")

/-- The numbers that pad a conversion. There are none where the conversion is
at fault itself. -/
def paddingTexts (source : Operand) (type : ShaderType) (pad : Binary32) :
    Except LoweringError (List String) :=
  match conversionPadding source type with
  | .ok missing => (List.replicate missing pad).mapM numberText
  | .error _ => .ok []

/-- What has to hold of a visit by itself. -/
def Visit.check (target : Target) (locals : Locals) :
    Visit → Except LoweringError Unit
  | .parameter symbol => outcome (locals.isLocal symbol)
  | .literal value => outcome (target.literalText value)
  | .builtIn source => outcome (lowerBuiltIn target source)
  | .introduced symbol =>
      outcome (target.typeKeyword symbol.type symbol.name)
  | .operation position node => node.check target locals position
  | .padding source type pad => outcome (paddingTexts source type pad)

/-- Every check in some visits passes. -/
def Passes (target : Target) (locals : Locals)
    (visits : List Visit) : Prop :=
  ∀ visit ∈ visits, visit.check target locals = .ok ()

section Passes

variable {target : Target} {locals : Locals}

theorem Passes.head {visit : Visit} {rest : List Visit}
    (passes : Passes target locals (visit :: rest)) :
    visit.check target locals = .ok () :=
  passes visit (List.mem_cons_self ..)

theorem Passes.tail {visit : Visit} {rest : List Visit}
    (passes : Passes target locals (visit :: rest)) :
    Passes target locals rest :=
  fun other member => passes other (List.mem_cons_of_mem visit member)

theorem Passes.left {first second : List Visit}
    (passes : Passes target locals (first ++ second)) :
    Passes target locals first :=
  fun visit member => passes visit (List.mem_append_left second member)

theorem Passes.right {first second : List Visit}
    (passes : Passes target locals (first ++ second)) :
    Passes target locals second :=
  fun visit member => passes visit (List.mem_append_right first member)

end Passes

/-! ## Performing a visit -/

/-- Makes a visit: its check, then the symbol or the function that it asks
for. -/
def Visit.perform (target : Target) (locals : Locals) (visit : Visit) :
    Lowering Unit := do
  Lowering.check (visit.check target locals)
  match visit.stageUse? locals with
  | some symbol => hoistParameter target symbol
  | none =>
      match visit.callee? with
      | some function => hoistFunction target function
      | none => pure ()

/-- Makes visits one after the other. -/
def performAll (target : Target) (locals : Locals) (visits : List Visit) :
    Lowering Unit :=
  visits.forM (Visit.perform target locals)

@[simp]
theorem performAll_nil (target : Target) (locals : Locals) :
    performAll target locals [] = pure () := by
  rfl

@[simp]
theorem performAll_cons (target : Target) (locals : Locals)
    (visit : Visit) (rest : List Visit) :
    performAll target locals (visit :: rest) =
      visit.perform target locals >>= fun _ =>
        performAll target locals rest := by
  rfl

@[simp]
theorem performAll_append (target : Target) (locals : Locals)
    (first second : List Visit) :
    performAll target locals (first ++ second) =
      performAll target locals first >>= fun _ =>
        performAll target locals second :=
  List.forM_append

end Shaderwright
