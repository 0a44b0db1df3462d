import Shaderwright.Proofs.LocalVariables
import Shaderwright.Proofs.Progress

/-!
What has to hold of a shader so that it can be lowered. The conditions are put
on the bodies that can be reached from the entry point, each by itself and all
together, and know of no order: neither of a walk nor of the bodies.
-/

namespace Shaderwright

-- Sums start from the zero of `Nat` itself, whatever monoids are in scope.
attribute [local instance (high)] Zero.ofOfNat0

/-! ## Bodies with their local variables -/

/-- A body with the parameters of its function; the entry point has none. -/
structure Scope where
  parameters : List Parameter
  body : List Operation

namespace Scope

/-- The local variables: the parameters and all that the body declares. -/
def locals (scope : Scope) : List Parameter :=
  scope.parameters ++ bodyDeclarations scope.body

/-- All that stands in the body. -/
def visits (scope : Scope) : List Visit :=
  bodyVisits 1 scope.body

/-- A parameter that the body uses and that no local variable names. -/
def StageUse (scope : Scope) (symbol : Parameter) : Prop :=
  .parameter symbol ∈ scope.visits ∧
    ∀ known ∈ scope.locals, known.name ≠ symbol.name

end Scope

def ShaderFunction.scope (function : ShaderFunction) : Scope :=
  ⟨function.parameters, function.body⟩

def Shader.entry (shader : Shader) : Scope :=
  ⟨[], shader.operations⟩

/-- The scopes of a shader: the entry point and the functions called from
it. -/
inductive Shader.HasScope (shader : Shader) : Scope → Prop
  | entry : shader.HasScope shader.entry
  | callee {function : ShaderFunction}
      (called : CalledFrom shader.operations function) :
      shader.HasScope function.scope

/-- A handle is the identity of a function, so functions that share one are
one function. -/
def Shader.HandlesAgree (shader : Shader) : Prop :=
  ∀ first, CalledFrom shader.operations first →
    ∀ second, CalledFrom shader.operations second →
      first.handle = second.handle → first = second

/-! ## Conditions -/

/-- The dialect has a keyword for a type. -/
def Target.Maps (target : Target) (type : ShaderType) : Prop :=
  (target.dialect.types type).isSome = true

/-- What can be assigned: a local variable, a varying of the stage, a writable
built-in variable, a declaration, or a selection from one of these. -/
def Operand.Assignable (locals : List Parameter) : Operand → Prop
  | .parameter symbol =>
      (∃ known ∈ locals, known.symbol = symbol.symbol) ∨
        symbol.qualifier = .varying ∧
          ∀ known ∈ locals, known.name ≠ symbol.name
  | .builtIn source => source = .output ∨ source = .pointSize
  | .operation (.declare _) => True
  | .operation (.select base _) => base.Assignable locals
  | _ => False

/-- The operands of a constructor fill it, as far as their components are
known. A single component fills any constructor. -/
def FillsConstructor (type : ShaderType) (operands : List Operand) : Prop :=
  ∀ counts, componentCounts? operands = some counts →
    counts.sum = type.size ∨ operands.length = 1 ∧ counts.sum = 1

/-- The condition on an operation at its position, for given local
variables. -/
def Operation.Admissible (target : Target) (locals : List Parameter)
    (position : Position) : Operation → Prop
  | .assign _ assigned _ => assigned.Assignable locals
  | .declare symbol => position ≠ .value ∧ target.Maps symbol.type
  | .arithmetic _ operands => 2 ≤ operands.length
  | .compare .. => True
  | .select .. => True
  | .builtIn function arguments =>
      arguments.length = function.arity ∧
        (function = .discard → position ≠ .value)
  | .ifThen .. => position ≠ .value
  | .ifElse .. => position ≠ .value
  | .loop .. => position ≠ .value
  | .returnValue _ => position ≠ .value
  | .returnVoid => position ≠ .value
  | .call function arguments =>
      arguments.length = function.parameters.length
  | .construct type operands =>
      FillsConstructor type operands ∧ target.Maps type
  | .convert source type _ =>
      (∃ found wanted, source.components? = some found ∧
        type.components? = some wanted ∧ found ≤ wanted) ∧
        target.Maps type

/-- The condition on what stands in a body, for given local variables. -/
def Visit.Admissible (target : Target) (locals : List Parameter) :
    Visit → Prop
  | .parameter symbol =>
      ∀ known ∈ locals, known.name = symbol.name →
        known.symbol = symbol.symbol
  | .literal value =>
      (value.type = .scalar ∨ value.type = .boolean ∨
        target.Maps value.type) ∧
        ∀ number ∈ value.components, number.isFinite = true
  | .builtIn source => source.availableIn target.stage = true
  | .introduced symbol => target.Maps symbol.type
  | .operation position node => node.Admissible target locals position
  | .padding source type pad =>
      ∀ found wanted, source.components? = some found →
        type.components? = some wanted → found < wanted →
          pad.isFinite = true

/-- The conditions on a body by itself. -/
structure Scope.Acceptable (target : Target) (scope : Scope) : Prop where
  localsAlike : DeclaredAlike scope.locals
  visits : ∀ visit ∈ scope.visits, visit.Admissible target scope.locals

/-- The conditions on the signature of a function. -/
structure ShaderFunction.Declarable (target : Target)
    (function : ShaderFunction) : Prop where
  returnType : ∀ type, function.returnType = some type → target.Maps type
  parameters : ∀ symbol ∈ function.parameters, target.Maps symbol.type

/-- A use of a parameter of the stage in one of the scopes of a shader. -/
def Shader.StageUse (shader : Shader) (symbol : Parameter) : Prop :=
  ∃ scope, shader.HasScope scope ∧ scope.StageUse symbol

/-- The conditions on a shader. -/
structure Shader.Acceptable (dialect : Dialect) (shader : Shader) :
    Prop where
  scopes : ∀ scope, shader.HasScope scope →
    scope.Acceptable (shader.target dialect)
  stageUsesAlike : ∀ first, shader.StageUse first →
    ∀ second, shader.StageUse second →
      first.name = second.name → first.symbol = second.symbol
  stageUsesDeclarable : ∀ symbol, shader.StageUse symbol →
    (shader.target dialect).Declares symbol
  signatures : ∀ function, CalledFrom shader.operations function →
    function.Declarable (shader.target dialect)
  functionsAlike : ∀ first, CalledFrom shader.operations first →
    ∀ second, CalledFrom shader.operations second →
      first.name = second.name → first.StandsFor second
  precision : ∀ precision, shader.precision = some precision →
    (dialect.precisions precision).isSome = true

/-! ## Conditions and checks -/

theorem outcome_ok_iff {α : Type} {result : Except LoweringError α} :
    outcome result = .ok () ↔ ∃ value, result = .ok value := by
  cases result <;> simp

theorem sequence_ok_iff {first second : Except LoweringError Unit} :
    (first >>= fun _ => second) = .ok () ↔
      first = .ok () ∧ second = .ok () := by
  cases first with
  | ok _ =>
      simp [bind, Except.bind]
  | error fault =>
      simp [bind, Except.bind]

theorem mapM_ok_iff {α β : Type} {convert : α → Except LoweringError β}
    {values : List α} :
    (∃ results, values.mapM convert = .ok results) ↔
      ∀ value ∈ values, ∃ result, convert value = .ok result := by
  induction values with
  | nil =>
      simp [pure, Except.pure]
  | cons value rest inductionHypothesis =>
      rw [List.mapM_cons]
      cases converted : convert value with
      | error fault =>
          simp [bind, Except.bind, converted]
      | ok result =>
          cases others : rest.mapM convert with
          | error fault =>
              rw [others] at inductionHypothesis
              simp [bind, Except.bind, converted, ← inductionHypothesis]
          | ok results =>
              rw [others] at inductionHypothesis
              simp [bind, Except.bind, pure, Except.pure, converted,
                ← inductionHypothesis]

theorem numberText_ok_iff (value : Binary32) :
    (∃ text, numberText value = .ok text) ↔ value.isFinite = true := by
  unfold numberText Binary32.literalText?
  by_cases finite : value.isFinite = true <;> simp [finite]

section Checks

variable (target : Target)

theorem typeKeyword_passes_iff (type : ShaderType) (usedBy : String) :
    outcome (target.typeKeyword type usedBy) = .ok () ↔
      target.Maps type := by
  rw [outcome_ok_iff, target.typeKeyword_ok_iff]
  rfl

theorem position_passes_iff (position : Position) (kind : StatementKind) :
    outcome (position.level kind) = .ok () ↔ position ≠ .value := by
  cases position <;> simp [Position.level]

private theorem numbers_ok_iff (numbers : List Binary32) :
    (∃ texts, numbers.mapM numberText = .ok texts) ↔
      ∀ number ∈ numbers, number.isFinite = true := by
  rw [mapM_ok_iff]
  simp only [numberText_ok_iff]

theorem literalText_of_composite {value : Literal}
    (composite : value.type ≠ .scalar ∧ value.type ≠ .boolean) :
    target.literalText value =
      (do
        let keyword ← target.typeKeyword value.type "literal"
        let numbers ← value.components.mapM numberText
        return callText keyword numbers) := by
  cases value <;> simp_all [Target.literalText, Literal.type]

private theorem literalText_of_keyword {value : Literal}
    (composite : value.type ≠ .scalar ∧ value.type ≠ .boolean) :
    outcome (target.literalText value) = .ok () ↔
      target.Maps value.type ∧
        ∀ number ∈ value.components, number.isFinite = true := by
  rw [literalText_of_composite target composite, ← numbers_ok_iff,
    ← typeKeyword_passes_iff target _ "literal"]
  cases target.typeKeyword value.type "literal" with
  | error fault =>
      simp [bind, Except.bind]
  | ok keyword =>
      cases value.components.mapM numberText <;>
        simp [bind, Except.bind, pure, Except.pure]

theorem literalText_passes_iff (value : Literal) :
    outcome (target.literalText value) = .ok () ↔
      (value.type = .scalar ∨ value.type = .boolean ∨
        target.Maps value.type) ∧
        ∀ number ∈ value.components, number.isFinite = true := by
  cases value with
  | scalar number =>
      rw [outcome_ok_iff]
      simp [Target.literalText, Literal.type, Literal.components,
        numberText_ok_iff]
  | boolean truth =>
      simp [Target.literalText, Literal.type, Literal.components]
  | _ =>
      rw [literalText_of_keyword target (by simp [Literal.type])]
      simp [Literal.type]

theorem conversionPadding_ok_iff (source : Operand) (type : ShaderType)
    (missing : Nat) :
    conversionPadding source type = .ok missing ↔
      ∃ found wanted, source.components? = some found ∧
        type.components? = some wanted ∧ found ≤ wanted ∧
          wanted - found = missing := by
  cases counted : source.components? with
  | none =>
      simp [conversionPadding_of_unknown counted]
  | some found =>
      obtain ⟨sourceType, typed, sized⟩ := Option.bind_eq_some_iff.mp counted
      rw [conversionPadding_of_known typed sized]
      cases type.components? with
      | none =>
          simp
      | some wanted =>
          by_cases smaller : wanted < found
          · have notLe : ¬ found ≤ wanted := by omega
            simp [smaller, notLe]
          · have le : found ≤ wanted := by omega
            simp [smaller, le]

private theorem checkTarget_parameter_ok_iff {locals : Locals}
    {declarations : List Parameter}
    (collects : locals.Collects declarations) (symbol : Parameter) :
    checkTarget locals (.parameter symbol) = .ok () ↔
      (Operand.parameter symbol).Assignable declarations := by
  simp only [Operand.Assignable, ← collects.isLocal_eq_true_iff,
    ← collects.isLocal_eq_false_iff]
  simp only [checkTarget, Operand.selectionRoot]
  cases locals.isLocal symbol with
  | error fault =>
      simp [bind, Except.bind]
  | ok isLocal =>
      cases isLocal <;> by_cases varying : symbol.qualifier = .varying <;>
        simp [bind, Except.bind, pure, Except.pure, throw, throwThe,
          MonadExceptOf.throw, varying]

/-- A target passes its check exactly when it can be assigned. -/
theorem checkTarget_ok_iff {locals : Locals}
    {declarations : List Parameter}
    (collects : locals.Collects declarations) (assigned : Operand) :
    checkTarget locals assigned = .ok () ↔
      assigned.Assignable declarations := by
  fun_induction Operand.Assignable declarations assigned with
  | case1 symbol =>
      exact checkTarget_parameter_ok_iff collects symbol
  | case2 source =>
      cases source <;>
        simp [checkTarget, Operand.selectionRoot,
          BuiltInVariable.isWritable]
  | case3 symbol =>
      simp [checkTarget, Operand.selectionRoot]
  | case4 base suffix inductionHypothesis =>
      rw [← inductionHypothesis]
      simp [checkTarget, Operand.selectionRoot]
  | case5 other notParameter notBuiltIn notDeclaration notSelection =>
      cases other with
      | operation node =>
          cases node <;> simp_all [checkTarget, Operand.selectionRoot]
      | _ =>
          simp_all [checkTarget, Operand.selectionRoot]

theorem checkArity_ok_iff (name : String) (expected found : Nat) :
    checkArity name expected found = .ok () ↔ found = expected := by
  unfold checkArity
  split <;> simp_all [eq_comm]

theorem checkComponents_ok_iff (type : ShaderType)
    (operands : List Operand) :
    checkComponents type operands = .ok () ↔
      FillsConstructor type operands := by
  unfold checkComponents FillsConstructor
  cases componentCounts? operands with
  | none =>
      simp
  | some counts =>
      dsimp only
      split <;> simp_all

theorem padding_passes_iff (source : Operand) (type : ShaderType)
    (pad : Binary32) :
    outcome (paddingTexts source type pad) = .ok () ↔
      ∀ missing, conversionPadding source type = .ok missing →
        0 < missing → pad.isFinite = true := by
  unfold paddingTexts
  cases conversionPadding source type with
  | error fault =>
      simp
  | ok missing =>
      dsimp only
      rw [outcome_ok_iff, numbers_ok_iff]
      simp [Nat.pos_iff_ne_zero]

/-- The check of an operation passes exactly when it is admissible. -/
theorem Operation.check_ok_iff {locals : Locals}
    {declarations : List Parameter}
    (collects : locals.Collects declarations) (position : Position)
    (node : Operation) :
    node.check target locals position = .ok () ↔
      node.Admissible target declarations position := by
  cases node with
  | assign operator assigned value =>
      exact checkTarget_ok_iff collects assigned
  | declare symbol =>
      exact sequence_ok_iff.trans <| and_congr
        (position_passes_iff position .declaration)
        (typeKeyword_passes_iff target symbol.type symbol.name)
  | arithmetic operator operands =>
      simp only [Operation.check, Operation.Admissible]
      split <;> simp <;> omega
  | compare operator left right =>
      simp [Operation.check, Operation.Admissible]
  | select base suffix =>
      simp [Operation.check, Operation.Admissible]
  | builtIn function arguments =>
      simp only [Operation.check, Operation.Admissible]
      by_cases discarding : function = .discard
      · simp only [discarding, if_true, true_implies]
        exact sequence_ok_iff.trans <| (and_congr
          (position_passes_iff position .discard)
          (checkArity_ok_iff ..)).trans and_comm
      · simp only [discarding, if_false, false_implies, and_true]
        exact checkArity_ok_iff ..
  | ifThen condition body =>
      exact position_passes_iff position .conditional
  | ifElse condition body alternative =>
      exact position_passes_iff position .conditional
  | loop initial condition step body =>
      exact position_passes_iff position .loop
  | returnValue value =>
      exact position_passes_iff position .return
  | returnVoid =>
      exact position_passes_iff position .return
  | call function arguments =>
      exact checkArity_ok_iff function.name function.parameters.length
        arguments.length
  | construct type operands =>
      exact sequence_ok_iff.trans <| and_congr
        (checkComponents_ok_iff type operands)
        (typeKeyword_passes_iff target type "constructor")
  | convert source type pad =>
      refine sequence_ok_iff.trans <| and_congr ?_
        (typeKeyword_passes_iff target type "conversion")
      rw [outcome_ok_iff]
      simp only [conversionPadding_ok_iff]
      constructor
      · rintro ⟨missing, found, wanted, known, target, le, _⟩
        exact ⟨found, wanted, known, target, le⟩
      · rintro ⟨found, wanted, known, target, le⟩
        exact ⟨wanted - found, found, wanted, known, target, le, rfl⟩

/-- The check of a visit passes exactly when the visit is admissible. -/
theorem Visit.check_ok_iff {locals : Locals}
    {declarations : List Parameter}
    (collects : locals.Collects declarations) (visit : Visit) :
    visit.check target locals = .ok () ↔
      visit.Admissible target declarations := by
  cases visit with
  | parameter symbol =>
      exact outcome_ok_iff.trans collects.isLocal_ok_iff
  | literal value =>
      exact literalText_passes_iff target value
  | builtIn source =>
      simp only [Visit.check, Visit.Admissible, lowerBuiltIn]
      split <;> simp_all
  | introduced symbol =>
      exact typeKeyword_passes_iff target symbol.type symbol.name
  | padding source type pad =>
      refine (padding_passes_iff source type pad).trans ?_
      simp only [conversionPadding_ok_iff, Visit.Admissible]
      constructor
      · intro finite found wanted known target smaller
        exact finite (wanted - found)
          ⟨found, wanted, known, target, by omega, rfl⟩ (by omega)
      · rintro finite missing ⟨found, wanted, known, target, le, rfl⟩ some
        exact finite found wanted known target (by omega)
  | operation position node =>
      exact Operation.check_ok_iff target collects position node

end Checks

/-! ## Signatures -/

theorem sizedVariableText_ok_iff {target : Target} {symbol : Parameter} :
    (∃ text, target.sizedVariableText symbol = .ok text) ↔
      target.Maps symbol.type := by
  rw [← outcome_ok_iff, outcome_sizedVariableText]
  exact typeKeyword_passes_iff target symbol.type symbol.name

/-- A signature can be written exactly when its types have keywords. -/
theorem signature_passes_iff {target : Target} {function : ShaderFunction} :
    outcome (function.signature target) = .ok () ↔
      function.Declarable target := by
  have parameters :
      (∃ texts,
          function.parameters.mapM target.sizedVariableText = .ok texts) ↔
        ∀ symbol ∈ function.parameters, target.Maps symbol.type := by
    rw [mapM_ok_iff]
    simp only [sizedVariableText_ok_iff]
  have declarable :
      function.Declarable target ↔
        (∀ type, function.returnType = some type → target.Maps type) ∧
          ∀ symbol ∈ function.parameters, target.Maps symbol.type :=
    ⟨fun holds => ⟨holds.returnType, holds.parameters⟩,
      fun holds => ⟨holds.1, holds.2⟩⟩
  rw [declarable, ← parameters, outcome_ok_iff]
  unfold ShaderFunction.signature Target.signatureText
  cases function.returnType with
  | none =>
      cases function.parameters.mapM target.sizedVariableText <;>
        simp [bind, Except.bind, pure, Except.pure]
  | some type =>
      have mapped : (∃ word, target.typeKeyword type function.name =
          .ok word) ↔ target.Maps type :=
        target.typeKeyword_ok_iff type function.name
      cases keyword : target.typeKeyword type function.name <;>
        cases function.parameters.mapM target.sizedVariableText <;>
          simp_all [bind, Except.bind, pure, Except.pure]

end Shaderwright
