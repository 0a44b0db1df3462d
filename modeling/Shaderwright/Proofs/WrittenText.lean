import Shaderwright.Proofs.Walk

/-!
The text of a tree as a function of the tree. Lowering writes this text after
it has made the visits of the walk (`lowerOperand_eq`, `lowerBody_eq`), so the
text depends neither on the local variables nor on what was met before.
-/

namespace Shaderwright

/-! ## Text -/

/-- The result of a check that has passed. -/
def resultOf {α : Type} [Inhabited α] :
    Except LoweringError α → α
  | .ok value => value
  | .error _ => default

mutual

/-- The text of an operand. -/
def Operand.text (target : Target) : Operand → String
  | .parameter symbol => symbol.name
  | .literal value => resultOf (target.literalText value)
  | .builtIn source => resultOf (lowerBuiltIn target source)
  | .operation node => node.text target .value
  | .raw text => text

/-- The text of an operation at its position. -/
def Operation.text (target : Target) (position : Position) :
    Operation → String
  | .assign operator assigned value =>
      position.expression <|
        (match assigned.declared? with
          | some symbol => resultOf (target.variableText symbol)
          | none => assigned.text target) ++
          " " ++ operator.symbol ++ " " ++ value.text target
  | .declare symbol =>
      indentation position.depth ++
        resultOf (target.sizedVariableText symbol) ++ ";\n"
  | .arithmetic operator operands =>
      position.expression <|
        (" " ++ operator.symbol ++ " ").intercalate
          (parenthesizedAll operands (operandTexts target operands))
  | .compare operator left right =>
      position.expression <|
        left.parenthesized (left.text target) ++ " " ++ operator.symbol ++
          " " ++ right.parenthesized (right.text target)
  | .select base suffix =>
      position.expression (base.parenthesized (base.text target) ++ suffix)
  | .builtIn function arguments =>
      if function = .discard then
        indentation position.depth ++ "discard;\n"
      else
        position.expression <|
          callText (target.dialect.functionName function)
            (operandTexts target arguments)
  | .ifThen condition body =>
      indentation position.depth ++ "if (" ++ condition.text target ++
        ") \x7b\n" ++ bodyText target (position.depth + 1) body ++
        indentation position.depth ++ "\x7d\n"
  | .ifElse condition body alternative =>
      indentation position.depth ++ "if (" ++ condition.text target ++
        ") \x7b\n" ++ bodyText target (position.depth + 1) body ++
        indentation position.depth ++ "\x7d else \x7b\n" ++
        bodyText target (position.depth + 1) alternative ++
        indentation position.depth ++ "\x7d\n"
  | .loop initial condition step body =>
      indentation position.depth ++ "for (" ++ initial ++ "; " ++
        condition ++ "; " ++ step ++ ") \x7b\n" ++
        bodyText target (position.depth + 1) body ++
        indentation position.depth ++ "\x7d\n"
  | .returnValue value =>
      indentation position.depth ++ "return " ++ value.text target ++ ";\n"
  | .returnVoid => indentation position.depth ++ "return;\n"
  | .call function arguments =>
      position.expression <|
        callText function.name (operandTexts target arguments)
  | .construct type operands =>
      position.expression <|
        callText (resultOf (target.typeKeyword type "constructor"))
          (operandTexts target operands)
  | .convert source type pad =>
      position.expression <|
        callText (resultOf (target.typeKeyword type "conversion"))
          (source.text target :: resultOf (paddingTexts source type pad))

/-- The texts of a list of operands. -/
def operandTexts (target : Target) : List Operand → List String
  | [] => []
  | operand :: rest => operand.text target :: operandTexts target rest

/-- The text of a body at a level of indentation. -/
def bodyText (target : Target) (level : Nat) : List Operation → String
  | [] => ""
  | operation :: rest =>
      operation.text target (.statement level) ++ bodyText target level rest

end

theorem operandTexts_eq_map (target : Target) (operands : List Operand) :
    operandTexts target operands =
      operands.map (Operand.text target) := by
  induction operands with
  | nil =>
      rfl
  | cons operand rest inductionHypothesis =>
      rw [operandTexts, inductionHypothesis, List.map_cons]

/-- The first line of the definition of a function. -/
def ShaderFunction.signature (target : Target)
    (function : ShaderFunction) : Except LoweringError String :=
  target.signatureText function.name function.returnType
    function.parameters

/-- The text of the definition of a function. -/
def ShaderFunction.definitionText (target : Target)
    (function : ShaderFunction) : String :=
  "\n" ++ resultOf (function.signature target) ++
    bodyText target 1 function.body ++ "\x7d\n"

/-! ## Checks inside the walk -/

@[simp]
theorem outcome_ok {α : Type} (value : α) :
    outcome (.ok value) = .ok () := by
  rfl

@[simp]
theorem outcome_error {α : Type} (fault : LoweringError) :
    outcome (.error fault : Except LoweringError α) = .error fault := by
  rfl

namespace Lowering

variable {α β : Type}

@[simp]
theorem check_ok (value : α) : check (.ok value) = pure value := by
  rfl

@[simp]
theorem check_error (fault : LoweringError) :
    (check (.error fault) : Lowering α) = throw fault := by
  rfl

@[simp]
theorem throw_bind (fault : LoweringError) (next : α → Lowering β) :
    (throw fault : Lowering α) >>= next = throw fault := by
  rfl

@[simp]
theorem map_throw (fault : LoweringError) (transform : α → β) :
    transform <$> (throw fault : Lowering α) = throw fault := by
  rfl

/-- A check that ends with another one is two checks. -/
@[simp]
theorem check_sequence (first : Except LoweringError α)
    (next : α → Except LoweringError β) :
    check (first >>= next) =
      check first >>= fun value => check (next value) := by
  cases first <;> rfl

/-- A check and the use of its result can be told apart. -/
theorem check_bind [Inhabited α] (result : Except LoweringError α)
    (next : α → Lowering β) :
    check result >>= next =
      check (outcome result) >>= fun _ => next (resultOf result) := by
  cases result <;> rfl

theorem map_check [Inhabited α] (result : Except LoweringError α)
    (transform : α → β) :
    transform <$> check result =
      (fun _ => transform (resultOf result)) <$> check (outcome result) := by
  cases result <;> rfl

end Lowering

/-! ## Visits and text -/

section Factorization

variable (target : Target) (locals : Locals)

private theorem lowerParameter_eq (symbol : Parameter) :
    lowerParameter target locals symbol =
      (do (Visit.parameter symbol).perform target locals
          return symbol.name) := by
  unfold lowerParameter Visit.perform
  simp only [Visit.check, Visit.stageUse?, Visit.callee?, Locals.isLocal]
  cases locals.find? symbol.name with
  | none =>
      simp [outcome, Except.map]
  | some known =>
      dsimp only
      cases Locals.checkSame known symbol with
      | ok _ =>
          simp [outcome, Except.map]
      | error fault =>
          simp [outcome, Except.map]

/-- A visit that asks for nothing is its check. -/
private theorem perform_eq_check {visit : Visit}
    (noSymbol : visit.stageUse? locals = none)
    (noFunction : visit.callee? = none) :
    visit.perform target locals =
      Lowering.check (visit.check target locals) := by
  unfold Visit.perform
  rw [noSymbol, noFunction]
  exact bind_pure_unit

theorem outcome_variableText (symbol : Parameter) :
    outcome (target.variableText symbol) =
      outcome (target.typeKeyword symbol.type symbol.name) := by
  unfold Target.variableText
  cases target.typeKeyword symbol.type symbol.name <;> rfl

theorem outcome_sizedVariableText (symbol : Parameter) :
    outcome (target.sizedVariableText symbol) =
      outcome (target.typeKeyword symbol.type symbol.name) := by
  unfold Target.sizedVariableText Target.variableText
  cases target.typeKeyword symbol.type symbol.name <;> rfl

private theorem perform_literal (value : Literal) :
    (Visit.literal value).perform target locals =
      Lowering.check (outcome (target.literalText value)) :=
  perform_eq_check target locals rfl rfl

private theorem perform_builtIn (source : BuiltInVariable) :
    (Visit.builtIn source).perform target locals =
      Lowering.check (outcome (lowerBuiltIn target source)) :=
  perform_eq_check target locals rfl rfl

private theorem perform_introduced (symbol : Parameter) :
    (Visit.introduced symbol).perform target locals =
      Lowering.check
        (outcome (target.typeKeyword symbol.type symbol.name)) :=
  perform_eq_check target locals rfl rfl

private theorem perform_padding (source : Operand) (type : ShaderType)
    (pad : Binary32) :
    (Visit.padding source type pad).perform target locals =
      Lowering.check (outcome (paddingTexts source type pad)) :=
  perform_eq_check target locals rfl rfl

private theorem perform_operation (position : Position)
    (node : Operation)
    (noFunction : (Visit.operation position node).callee? = none) :
    (Visit.operation position node).perform target locals =
      Lowering.check (node.check target locals position) :=
  perform_eq_check target locals rfl noFunction

private theorem perform_call (position : Position)
    (function : ShaderFunction) (arguments : List Operand) :
    (Visit.operation position (.call function arguments)).perform target
        locals =
      (do Lowering.check
            (checkArity function.name function.parameters.length
              arguments.length)
          hoistFunction target function) := by
  rfl

mutual

theorem lowerOperand_eq : ∀ operand : Operand,
    lowerOperand target locals operand =
      (do performAll target locals operand.visits
          return operand.text target)
  | .parameter symbol => by
      simp [lowerOperand, Operand.visits, Operand.text, lowerParameter_eq]
  | .literal value => by
      rw [lowerOperand, ← bind_pure (Lowering.check _),
        Lowering.check_bind]
      simp [Operand.visits, Operand.text, perform_literal]
  | .builtIn source => by
      rw [lowerOperand, ← bind_pure (Lowering.check _),
        Lowering.check_bind]
      simp [Operand.visits, Operand.text, perform_builtIn]
  | .operation node => by
      simp [lowerOperand, Operand.visits, Operand.text,
        lowerOperation_eq .value node]
  | .raw text => by
      simp [lowerOperand, Operand.visits, Operand.text]

theorem lowerOperation_eq (position : Position) : ∀ node : Operation,
    lowerOperation target locals position node =
      (do performAll target locals (node.visits position)
          return node.text target position)
  | .assign operator assigned value => by
      have visit :=
        perform_operation target locals position
          (.assign operator assigned value) rfl
      cases declared : assigned.declared? with
      | some symbol =>
          simp [lowerOperation, Operation.visits, Operation.text, declared,
            visit, Operation.check, perform_introduced,
            Lowering.check_bind (target.variableText symbol),
            outcome_variableText,
            lowerOperand_eq value]
      | none =>
          simp [lowerOperation, Operation.visits, Operation.text, declared,
            visit, Operation.check, lowerOperand_eq assigned,
            lowerOperand_eq value]
  | .declare symbol => by
      have visit :=
        perform_operation target locals position (.declare symbol) rfl
      cases position with
      | statement level =>
          simp [lowerOperation, Operation.visits, Operation.text, visit,
            Operation.check, Position.level, Position.depth,
            Lowering.check_bind (target.sizedVariableText symbol),
            outcome_sizedVariableText]
      | value =>
          simp [lowerOperation, Operation.visits, visit, Operation.check,
            Position.level]
  | .arithmetic operator operands => by
      have visit :=
        perform_operation target locals position
          (.arithmetic operator operands) rfl
      by_cases short : operands.length < 2
      · simp [lowerOperation, Operation.visits, visit, Operation.check,
          short]
      · simp [lowerOperation, Operation.visits, Operation.text, visit,
          Operation.check, short,
          lowerOperands_eq operands]
  | .compare operator left right => by
      have visit :=
        perform_operation target locals position
          (.compare operator left right) rfl
      simp [lowerOperation, Operation.visits, Operation.text, visit,
        Operation.check, lowerOperand_eq left,
        lowerOperand_eq right]
  | .select base suffix => by
      have visit :=
        perform_operation target locals position (.select base suffix) rfl
      simp [lowerOperation, Operation.visits, Operation.text, visit,
        Operation.check, lowerOperand_eq base]
  | .builtIn function arguments => by
      have visit :=
        perform_operation target locals position
          (.builtIn function arguments) rfl
      by_cases discarding : function = .discard
      · subst discarding
        cases position with
        | statement level =>
            -- Arguments are not lowered here: a check has ruled them out.
            cases arguments with
            | nil =>
                simp [lowerOperation, Operation.visits, Operation.text,
                  visit, Operation.check, Position.level, Position.depth,
                  operandVisits]
            | cons argument rest =>
                simp [lowerOperation, Operation.visits, visit,
                  Operation.check, Position.level, checkArity,
                  BuiltInFunction.arity]
        | value =>
            simp [lowerOperation, Operation.visits, visit,
              Operation.check, Position.level]
      · simp [lowerOperation, Operation.visits, Operation.text, visit,
          Operation.check, discarding, lowerOperands_eq arguments]
  | .ifThen condition body => by
      have visit :=
        perform_operation target locals position
          (.ifThen condition body) rfl
      cases position with
      | statement level =>
          simp [lowerOperation, Operation.visits, Operation.text, visit,
            Operation.check, Position.level, Position.depth,
            lowerOperand_eq condition,
            lowerBody_eq (level + 1) body]
      | value =>
          simp [lowerOperation, Operation.visits, visit, Operation.check,
            Position.level]
  | .ifElse condition body alternative => by
      have visit :=
        perform_operation target locals position
          (.ifElse condition body alternative) rfl
      cases position with
      | statement level =>
          simp [lowerOperation, Operation.visits, Operation.text, visit,
            Operation.check, Position.level, Position.depth,
            lowerOperand_eq condition,
            lowerBody_eq (level + 1) body,
            lowerBody_eq (level + 1) alternative]
      | value =>
          simp [lowerOperation, Operation.visits, visit, Operation.check,
            Position.level]
  | .loop initial condition step body => by
      have visit :=
        perform_operation target locals position
          (.loop initial condition step body) rfl
      cases position with
      | statement level =>
          simp [lowerOperation, Operation.visits, Operation.text, visit,
            Operation.check, Position.level, Position.depth,
            lowerBody_eq (level + 1) body]
      | value =>
          simp [lowerOperation, Operation.visits, visit, Operation.check,
            Position.level]
  | .returnValue value => by
      have visit :=
        perform_operation target locals position (.returnValue value) rfl
      cases position with
      | statement level =>
          simp [lowerOperation, Operation.visits, Operation.text, visit,
            Operation.check, Position.level, Position.depth,
            lowerOperand_eq value]
      | value =>
          simp [lowerOperation, Operation.visits, visit, Operation.check,
            Position.level]
  | .returnVoid => by
      have visit :=
        perform_operation target locals position .returnVoid rfl
      cases position with
      | statement level =>
          simp [lowerOperation, Operation.visits, Operation.text, visit,
            Operation.check, Position.level, Position.depth]
      | value =>
          simp [lowerOperation, Operation.visits, visit, Operation.check,
            Position.level]
  | .call function arguments => by
      simp [lowerOperation, Operation.visits, Operation.text,
        perform_call, lowerOperands_eq arguments]
  | .construct type operands => by
      have visit :=
        perform_operation target locals position
          (.construct type operands) rfl
      simp [lowerOperation, Operation.visits, Operation.text, visit,
        Operation.check, lowerOperands_eq operands,
        Lowering.check_bind (target.typeKeyword type "constructor")]
  | .convert source type pad => by
      have visit :=
        perform_operation target locals position
          (.convert source type pad) rfl
      cases padding : conversionPadding source type with
      | ok missing =>
          have numbers :
              paddingTexts source type pad =
                (List.replicate missing pad).mapM numberText := by
            rw [paddingTexts, padding]
          simp [lowerOperation, Operation.visits, Operation.text, visit,
            Operation.check, perform_padding, padding, numbers,
            lowerOperand_eq source,
            Lowering.check_bind (target.typeKeyword type "conversion"),
            Lowering.map_check
              ((List.replicate missing pad).mapM numberText)]
      | error fault =>
          simp [lowerOperation, Operation.visits, visit, Operation.check,
            padding]

theorem lowerOperands_eq : ∀ operands : List Operand,
    lowerOperands target locals operands =
      (do performAll target locals (operandVisits operands)
          return operandTexts target operands)
  | [] => by
      simp [lowerOperands, operandVisits, operandTexts]
  | operand :: rest => by
      simp [lowerOperands, operandVisits, operandTexts,
        lowerOperand_eq operand, lowerOperands_eq rest]

/-- Lowering a body makes its visits and writes its text. -/
theorem lowerBody_eq (level : Nat) : ∀ body : List Operation,
    lowerBody target locals level body =
      (do performAll target locals (bodyVisits level body)
          return bodyText target level body)
  | [] => by
      simp [lowerBody, bodyVisits, bodyText]
  | operation :: rest => by
      simp [lowerBody, bodyVisits, bodyText,
        lowerOperation_eq (.statement level) operation,
        lowerBody_eq level rest]

end

/-- Hoisting a function that is not defined yet makes the visits of its body
and adds its definition. -/
theorem hoistFunction_eq (function : ShaderFunction) :
    hoistFunction target function =
      (do match (← get).definition? function.name with
          | some known =>
              if known.function.handle == function.handle ||
                  known.function.equals function then
                pure ()
              else
                throw (.inconsistentFunction function.name)
          | none => do
              let locals ← Lowering.check <|
                Locals.ofBody function.parameters function.body
              Lowering.check (outcome (function.signature target))
              performAll target locals (bodyVisits 1 function.body)
              addDefinition ⟨function, function.definitionText target⟩) := by
  obtain ⟨handle, name, returnType, parameters, body⟩ := function
  rw [hoistFunction]
  refine congrArg (bind get) (funext fun progress => ?_)
  cases progress.definition? name with
  | some known =>
      rfl
  | none =>
      simp only [ShaderFunction.signature, ShaderFunction.definitionText,
        Lowering.check_bind (target.signatureText _ _ _), lowerBody_eq,
        bind_pure_comp, bind_map_left]

end Factorization

end Shaderwright
