import Shaderwright.Proofs.Conditions

/-!
Where a lowering ends with a fault. The walk arrives at a visit once all that
stands before has been performed (`Reaches`), and ends there if the check of
the visit fails, whatever stands below or behind (`Reaches.run_error`).
Conversions are refused nowhere else: a lowering ends with the fault of a
conversion exactly when it arrives at a conversion that has this fault
(`lower_conversionFault_iff`).
-/

namespace Shaderwright

/-! ## Arriving at a visit -/

/-- The walk over a list of visits arrives at a visit: at the first one, behind
visits that are performed, or in the body of a function that is about to be
defined. The local variables are those of the body where the visit stands. -/
inductive Reaches (target : Target) (local' : Locals) (reached : Visit) :
    Locals → List Visit → Progress → Prop
  | here {rest : List Visit} {start : Progress} :
      Reaches target local' reached local' (reached :: rest) start
  | later {locals : Locals} {visit : Visit} {rest : List Visit}
      {start middle : Progress}
      (performed :
        (visit.perform target locals).run start = .ok () middle)
      (later : Reaches target local' reached locals rest middle) :
      Reaches target local' reached locals (visit :: rest) start
  | inside {locals inner : Locals} {visit : Visit} {rest : List Visit}
      {start : Progress} {function : ShaderFunction}
      (checked : visit.check target locals = .ok ())
      (called : visit.callee? = some function)
      (missing : start.definition? function.name = none)
      (collected :
        Locals.ofBody function.parameters function.body = .ok inner)
      (signed : outcome (function.signature target) = .ok ())
      (body : Reaches target local' reached inner
        (bodyVisits 1 function.body) start) :
      Reaches target local' reached locals (visit :: rest) start

/-- The walk over the entry point of a shader arrives at a visit. -/
def Shader.Reaches (dialect : Dialect) (shader : Shader)
    (reached : Visit) : Prop :=
  ∃ locals local', Locals.ofBody [] shader.operations = .ok locals ∧
    Shaderwright.Reaches (shader.target dialect) local' reached locals
      (bodyVisits 1 shader.operations) .start

section Runs

variable {α β : Type} {target : Target} {locals : Locals}
  {start finish : Progress} {fault : LoweringError}

theorem run_bind_error_iff {first : Lowering α} {next : α → Lowering β} :
    (first >>= next).run start = .error fault finish ↔
      first.run start = .error fault finish ∨
        ∃ value middle, first.run start = .ok value middle ∧
          (next value).run middle = .error fault finish := by
  rw [EStateM.run_bind]
  cases first.run start with
  | ok value middle =>
      constructor
      · intro later
        exact .inr ⟨value, middle, rfl, later⟩
      · rintro (impossible | ⟨_, _, same, later⟩)
        · cases impossible
        · cases same
          exact later
  | error other middle =>
      simp

theorem run_check_error_iff {result : Except LoweringError α} :
    (Lowering.check result).run start = .error fault finish ↔
      result = .error fault ∧ start = finish := by
  cases result with
  | ok value =>
      simp [EStateM.run_pure]
  | error other =>
      constructor
      · intro ran
        cases ran
        exact ⟨rfl, rfl⟩
      · rintro ⟨same, rfl⟩
        cases same
        rfl

/-- A visit that fails its check is not performed. -/
theorem Visit.run_perform_of_check_error {visit : Visit}
    (failed : visit.check target locals = .error fault) :
    (visit.perform target locals).run start = .error fault start := by
  unfold Visit.perform
  rw [failed]
  rfl

/-- A walk over the body of a function that fails ends the definition of the
function. -/
theorem run_hoistFunction_of_body_error {function : ShaderFunction}
    {inner : Locals}
    (missing : start.definition? function.name = none)
    (collected :
      Locals.ofBody function.parameters function.body = .ok inner)
    (signed : outcome (function.signature target) = .ok ())
    (failed : (performAll target inner (bodyVisits 1 function.body)).run
      start = .error fault finish) :
    (hoistFunction target function).run start = .error fault finish := by
  rw [hoistFunction_eq, run_bind_error_iff]
  refine .inr ⟨start, start, rfl, ?_⟩
  rw [missing]
  dsimp only
  rw [collected, Lowering.check_ok, pure_bind, signed, Lowering.check_ok,
    pure_bind, run_bind_error_iff]
  exact .inl failed

end Runs

/-- A visit that fails its check ends the walk that arrives at it. -/
theorem Reaches.run_error {target : Target} {local' locals : Locals}
    {reached : Visit} {visits : List Visit} {start : Progress}
    {fault : LoweringError}
    (reaches : Reaches target local' reached locals visits start)
    (failed : reached.check target local' = .error fault) :
    ∃ finish, (performAll target locals visits).run start =
      .error fault finish := by
  induction reaches with
  | @here rest start =>
      refine ⟨start, ?_⟩
      rw [performAll_cons, run_bind_error_iff]
      exact .inl (Visit.run_perform_of_check_error failed)
  | later performed _ inductionHypothesis =>
      obtain ⟨finish, ran⟩ := inductionHypothesis
      refine ⟨finish, ?_⟩
      rw [performAll_cons, run_bind_error_iff]
      exact .inr ⟨(), _, performed, ran⟩
  | @inside locals inner visit rest start function checked called missing
      collected signed _ inductionHypothesis =>
      obtain ⟨finish, ran⟩ := inductionHypothesis
      have hoisted :=
        run_hoistFunction_of_body_error missing collected signed ran
      refine ⟨finish, ?_⟩
      rw [performAll_cons, run_bind_error_iff]
      refine .inl ?_
      unfold Visit.perform
      rw [checked, Lowering.check_ok, pure_bind,
        stageUse?_of_callee? called, called]
      exact hoisted

/-! ## Faults of conversions -/

/-- The fault of a conversion by itself. -/
def LoweringError.IsConversion : LoweringError → Prop
  | shrinkingConversion _ _ => True
  | unknownConversionSource _ => True
  | _ => False

/-- A check that never ends with the fault of a conversion. -/
def RaisesNoConversion {α : Type} (result : Except LoweringError α) : Prop :=
  ∀ fault, result = .error fault → ¬ fault.IsConversion

namespace RaisesNoConversion

variable {α β : Type}

theorem ok (value : α) : RaisesNoConversion (.ok value) := by
  intro fault impossible
  cases impossible

theorem error {fault : LoweringError} (other : ¬ fault.IsConversion) :
    RaisesNoConversion (.error fault : Except LoweringError α) := by
  intro raised same
  cases same
  exact other

theorem bind {first : Except LoweringError α}
    {next : α → Except LoweringError β}
    (firstRaises : RaisesNoConversion first)
    (nextRaises : ∀ value, RaisesNoConversion (next value)) :
    RaisesNoConversion (first >>= next) := by
  cases first with
  | ok value =>
      exact nextRaises value
  | error fault =>
      exact error (firstRaises fault rfl)

theorem map {result : Except LoweringError α}
    (raises : RaisesNoConversion result) (convert : α → β) :
    RaisesNoConversion (result.map convert) := by
  cases result with
  | ok value =>
      exact ok _
  | error fault =>
      exact error (raises fault rfl)

theorem outcome {result : Except LoweringError α}
    (raises : RaisesNoConversion result) :
    RaisesNoConversion (outcome result) :=
  raises.map _

theorem mapM {convert : α → Except LoweringError β}
    (raises : ∀ value, RaisesNoConversion (convert value))
    (values : List α) : RaisesNoConversion (values.mapM convert) := by
  induction values with
  | nil =>
      exact ok _
  | cons value rest inductionHypothesis =>
      rw [List.mapM_cons]
      exact (raises value).bind fun _ =>
        inductionHypothesis.bind fun _ => ok _

theorem foldlM {step : β → α → Except LoweringError β}
    (raises : ∀ state value, RaisesNoConversion (step state value))
    (values : List α) (state : β) :
    RaisesNoConversion (values.foldlM step state) := by
  induction values generalizing state with
  | nil =>
      exact ok _
  | cons value rest inductionHypothesis =>
      rw [List.foldlM_cons]
      exact (raises state value).bind inductionHypothesis

theorem typeKeyword (target : Target) (type : ShaderType)
    (usedBy : String) :
    RaisesNoConversion (target.typeKeyword type usedBy) := by
  unfold Target.typeKeyword
  split
  · exact ok _
  · exact error id

theorem qualifierKeyword (target : Target) (qualifier : Qualifier)
    (usedBy : String) :
    RaisesNoConversion (target.qualifierKeyword qualifier usedBy) := by
  unfold Target.qualifierKeyword
  split
  · exact ok _
  · exact error id

theorem precisionText (target : Target) (precision : Option Precision) :
    RaisesNoConversion (target.precisionText precision) := by
  unfold Target.precisionText
  repeat' split
  · exact ok _
  · exact ok _
  · exact error id

theorem declarationText (target : Target) (symbol : Symbol) :
    RaisesNoConversion (target.declarationText symbol) :=
  .bind (qualifierKeyword _ _ _) fun _ =>
    .bind (typeKeyword _ _ _) fun _ => ok _

theorem sizedVariableText (target : Target) (symbol : Parameter) :
    RaisesNoConversion (target.sizedVariableText symbol) :=
  .bind (.bind (typeKeyword _ _ _) fun _ => ok _) fun _ => ok _

theorem signature (target : Target) (function : ShaderFunction) :
    RaisesNoConversion (function.signature target) := by
  have parameters := mapM (sizedVariableText target) function.parameters
  unfold ShaderFunction.signature Target.signatureText
  cases function.returnType with
  | none =>
      exact .bind (ok _) fun _ => .bind parameters fun _ => ok _
  | some type =>
      exact .bind (typeKeyword _ _ _) fun _ =>
        .bind parameters fun _ => ok _

theorem checkSame (known symbol : Parameter) :
    RaisesNoConversion (Locals.checkSame known symbol) := by
  unfold Locals.checkSame
  split
  · exact ok _
  · exact error id

theorem isLocal (locals : Locals) (symbol : Parameter) :
    RaisesNoConversion (locals.isLocal symbol) := by
  unfold Locals.isLocal
  split
  · exact .map (checkSame _ _) _
  · exact ok _

theorem ofBody (parameters : List Parameter) (body : List Operation) :
    RaisesNoConversion (Locals.ofBody parameters body) := by
  refine foldlM (fun locals symbol => ?_) _ _
  unfold Locals.insert
  split
  · exact .map (checkSame _ _) _
  · exact ok _

theorem insert (table : SymbolTable) (symbol : Parameter) :
    RaisesNoConversion (table.insert symbol) := by
  unfold SymbolTable.insert
  dsimp only
  repeat' split
  · exact ok _
  · exact ok _
  · exact error id

theorem numberText (value : Binary32) :
    RaisesNoConversion (numberText value) := by
  unfold Shaderwright.numberText
  split
  · exact ok _
  · exact error id

theorem literalText (target : Target) (value : Literal) :
    RaisesNoConversion (target.literalText value) := by
  have composite :
      RaisesNoConversion (do
        let keyword ← target.typeKeyword value.type "literal"
        let numbers ← value.components.mapM Shaderwright.numberText
        return callText keyword numbers) :=
    .bind (typeKeyword _ _ _) fun _ =>
      .bind (mapM numberText _) fun _ => ok _
  cases value with
  | scalar number =>
      exact numberText number
  | boolean truth =>
      exact ok _
  | _ =>
      exact composite

theorem checkTarget (locals : Locals) (assigned : Operand) :
    RaisesNoConversion (checkTarget locals assigned) := by
  unfold Shaderwright.checkTarget
  split
  · refine .bind (isLocal _ _) fun isLocal => ?_
    split
    · exact ok _
    · exact error id
  · split
    · exact ok _
    · exact error id
  · exact ok _
  · exact error id
  · exact error id
  · exact error id

theorem checkArity (name : String) (expected found : Nat) :
    RaisesNoConversion (checkArity name expected found) := by
  unfold Shaderwright.checkArity
  split
  · exact ok _
  · exact error id

theorem checkComponents (type : ShaderType) (operands : List Operand) :
    RaisesNoConversion (checkComponents type operands) := by
  unfold Shaderwright.checkComponents
  dsimp only
  repeat' split
  · exact ok _
  · exact ok _
  · exact error id

theorem level (position : Position) (kind : StatementKind) :
    RaisesNoConversion (position.level kind) := by
  cases position with
  | statement level =>
      exact ok _
  | value =>
      exact error id

theorem paddingTexts (source : Operand) (type : ShaderType)
    (pad : Binary32) :
    RaisesNoConversion (paddingTexts source type pad) := by
  unfold Shaderwright.paddingTexts
  split
  · exact mapM numberText _
  · exact ok _

end RaisesNoConversion

section Conversions

variable {target : Target} {locals : Locals} {start finish : Progress}
  {fault : LoweringError}

theorem conversionPadding_eq_shrinking_iff {source : Operand}
    {type sourceType targetType : ShaderType} :
    conversionPadding source type =
        .error (.shrinkingConversion sourceType targetType) ↔
      targetType = type ∧ source.type? = some sourceType ∧
        ∃ found, source.components? = some found ∧
          ∀ wanted, type.components? = some wanted → wanted < found := by
  cases counted : source.components? with
  | none =>
      simp [conversionPadding_of_unknown counted]
  | some found =>
      obtain ⟨known, typed, sized⟩ := Option.bind_eq_some_iff.mp counted
      rw [conversionPadding_of_known typed sized]
      cases type.components? with
      | none =>
          simp [typed, and_comm, eq_comm]
      | some wanted =>
          by_cases smaller : wanted < found
          · simp [typed, smaller, and_comm, eq_comm]
          · simp [smaller]

theorem conversionPadding_eq_unknown_iff {source : Operand}
    {type targetType : ShaderType} :
    conversionPadding source type =
        .error (.unknownConversionSource targetType) ↔
      targetType = type ∧ source.components? = none := by
  cases counted : source.components? with
  | none =>
      simp [conversionPadding_of_unknown counted, eq_comm]
  | some found =>
      obtain ⟨known, typed, sized⟩ := Option.bind_eq_some_iff.mp counted
      rw [conversionPadding_of_known typed sized]
      cases type.components? with
      | none =>
          simp
      | some wanted =>
          by_cases smaller : wanted < found <;> simp [smaller]

/-- Of all visits only that of a conversion has the fault of one. -/
theorem Visit.check_conversion_iff {visit : Visit}
    (conversion : fault.IsConversion) :
    visit.check target locals = .error fault ↔
      ∃ position source type pad,
        visit = .operation position (.convert source type pad) ∧
          conversionPadding source type = .error fault := by
  constructor
  · intro failed
    have raises (other : RaisesNoConversion (visit.check target locals)) :
        False :=
      other fault failed conversion
    cases visit with
    | operation position node =>
        cases node with
        | convert source type pad =>
            refine ⟨position, source, type, pad, rfl, ?_⟩
            cases padding : conversionPadding source type with
            | error other =>
                simpa [Visit.check, Operation.check, padding, bind,
                  Except.bind] using failed
            | ok missing =>
                refine (raises ?_).elim
                simp only [Visit.check, Operation.check, padding, outcome_ok]
                exact .bind (.ok _) fun _ =>
                  .outcome (.typeKeyword _ _ _)
        | assign operator assigned value =>
            exact (raises (.checkTarget locals assigned)).elim
        | declare symbol =>
            exact (raises (.bind (.outcome (.level position _)) fun _ =>
              .outcome (.typeKeyword _ _ _))).elim
        | arithmetic operator operands =>
            refine (raises ?_).elim
            simp only [Visit.check, Operation.check]
            split
            · exact .error id
            · exact .ok _
        | compare operator left right | select base suffix =>
            exact (raises (.ok ())).elim
        | builtIn function arguments =>
            refine (raises ?_).elim
            simp only [Visit.check, Operation.check]
            split
            · exact .bind (.outcome (.level position _)) fun _ =>
                .checkArity _ _ _
            · exact .checkArity _ _ _
        | ifThen condition body | ifElse condition body alternative
        | loop initial condition step body | returnValue value
        | returnVoid =>
            exact (raises (.outcome (.level position _))).elim
        | call function arguments =>
            exact (raises (.checkArity _ _ _)).elim
        | construct type operands =>
            exact (raises (.bind (.checkComponents type operands) fun _ =>
              .outcome (.typeKeyword _ _ _))).elim
    | parameter symbol =>
        exact (raises (.outcome (.isLocal locals symbol))).elim
    | literal value =>
        exact (raises (.outcome (.literalText target value))).elim
    | builtIn source =>
        refine (raises (.outcome ?_)).elim
        unfold lowerBuiltIn
        split
        · exact .ok _
        · exact .error id
    | introduced symbol =>
        exact (raises (.outcome (.typeKeyword _ _ _))).elim
    | padding source type pad =>
        exact (raises (.outcome (.paddingTexts source type pad))).elim
  · rintro ⟨position, source, type, pad, rfl, padding⟩
    simp [Visit.check, Operation.check, padding, bind, Except.bind]

/-- No symbol is refused with the fault of a conversion. -/
theorem not_run_hoistParameter_conversion {symbol : Parameter}
    (conversion : fault.IsConversion) :
    (hoistParameter target symbol).run start ≠ .error fault finish := by
  intro ran
  unfold hoistParameter at ran
  by_cases array : 0 < symbol.arrayLength ∧ symbol.qualifier ≠ .constant
  case pos =>
      rw [if_pos array] at ran
      cases ran
      exact conversion
  case neg =>
      rw [if_neg array] at ran
      dsimp only at ran
      rcases run_bind_error_iff.mp ran with typed | ⟨_, _, _, later⟩
      · exact RaisesNoConversion.typeKeyword _ _ _ fault
          (run_check_error_iff.mp typed).1 conversion
      rcases run_bind_error_iff.mp later with qualified | ⟨_, middle, _, later⟩
      · exact RaisesNoConversion.qualifierKeyword _ _ _ fault
          (run_check_error_iff.mp qualified).1 conversion
      rcases run_bind_error_iff.mp later with impossible | ⟨_, _, got, later⟩
      · cases impossible
      rcases run_bind_error_iff.mp later with inserted | ⟨inserted, _, _, last⟩
      · exact RaisesNoConversion.insert _ _ fault
          (run_check_error_iff.mp inserted).1 conversion
      obtain ⟨isNew, table⟩ := inserted
      cases isNew <;> cases last

theorem not_run_addDefinition_conversion {definition : Definition}
    (conversion : fault.IsConversion) :
    (addDefinition definition).run start ≠ .error fault finish := by
  intro ran
  unfold addDefinition at ran
  rcases run_bind_error_iff.mp ran with impossible | ⟨_, _, got, ran⟩
  · cases impossible
  cases got
  dsimp only at ran
  split at ran
  · cases ran
    exact conversion
  · cases ran

/-- A function is refused with the fault of a conversion where the walk over
its body ends with it. -/
theorem run_hoistFunction_conversion {function : ShaderFunction}
    (conversion : fault.IsConversion)
    (ran : (hoistFunction target function).run start =
      .error fault finish) :
    ∃ inner, start.definition? function.name = none ∧
      Locals.ofBody function.parameters function.body = .ok inner ∧
      outcome (function.signature target) = .ok () ∧
      (performAll target inner (bodyVisits 1 function.body)).run start =
        .error fault finish := by
  rw [hoistFunction_eq] at ran
  rcases run_bind_error_iff.mp ran with impossible | ⟨_, _, got, ran⟩
  · cases impossible
  cases got
  cases found : start.definition? function.name with
  | some known =>
      rw [found] at ran
      dsimp only at ran
      split at ran
      · cases ran
      · cases ran
        exact conversion.elim
  | none =>
      rw [found] at ran
      dsimp only at ran
      rcases run_bind_error_iff.mp ran with collecting |
        ⟨inner, middle, collected, ran⟩
      · exact absurd conversion <| RaisesNoConversion.ofBody _ _ fault
          (run_check_error_iff.mp collecting).1
      obtain ⟨collects, rfl⟩ := run_check_ok.mp collected
      rcases run_bind_error_iff.mp ran with signing |
        ⟨_, middle, signed, ran⟩
      · exact absurd conversion <|
          (RaisesNoConversion.signature target function).outcome fault
            (run_check_error_iff.mp signing).1
      obtain ⟨passes, rfl⟩ := run_check_ok.mp signed
      rcases run_bind_error_iff.mp ran with body | ⟨_, middle, _, ran⟩
      · exact ⟨inner, rfl, collects, passes, body⟩
      · exact absurd ran (not_run_addDefinition_conversion conversion)

/-- A walk over a body that ends with the fault of a conversion has arrived at
a visit with this fault. -/
def ArrivesAtFault (target : Target) (fault : LoweringError)
    (visits : List Visit) : Prop :=
  ∀ locals start finish,
    (performAll target locals visits).run start = .error fault finish →
      ∃ local' reached, Reaches target local' reached locals visits start ∧
        reached.check target local' = .error fault

private theorem arrivesAtFault_of_callees (conversion : fault.IsConversion) :
    ∀ {visits : List Visit},
      CalleesSatisfy
          (fun function =>
            ArrivesAtFault target fault (bodyVisits 1 function.body))
          visits →
        ArrivesAtFault target fault visits
  | [], _, _, _, _, ran => by
      cases ran
  | visit :: rest, bodies, locals, start, finish, ran => by
      rw [performAll_cons] at ran
      rcases run_bind_error_iff.mp ran with first |
        ⟨⟨⟩, middle, performed, later⟩
      · unfold Visit.perform at first
        rcases run_bind_error_iff.mp first with failed |
          ⟨⟨⟩, middle, passed, step⟩
        · exact ⟨locals, visit, .here, (run_check_error_iff.mp failed).1⟩
        obtain ⟨checked, rfl⟩ := run_check_ok.mp passed
        cases uses : visit.stageUse? locals with
        | some symbol =>
            rw [uses] at step
            exact absurd step (not_run_hoistParameter_conversion conversion)
        | none =>
            cases called : visit.callee? with
            | none =>
                rw [uses, called] at step
                cases step
            | some function =>
                rw [uses, called] at step
                obtain ⟨inner, missing, collected, signed, body⟩ :=
                  run_hoistFunction_conversion conversion step
                obtain ⟨local', reached, reaches, failed⟩ :=
                  bodies.head called inner start finish body
                exact ⟨local', reached,
                  .inside checked called missing collected signed reaches,
                  failed⟩
      · obtain ⟨local', reached, reaches, failed⟩ :=
          arrivesAtFault_of_callees conversion bodies.tail locals middle
            finish later
        exact ⟨local', reached, .later performed reaches, failed⟩

/-- The induction runs from the callees up. -/
private theorem arrivesAtFault_body (conversion : fault.IsConversion)
    (function : ShaderFunction) :
    ArrivesAtFault target fault (bodyVisits 1 function.body) := by
  induction function using ShaderFunction.callee_induction with
  | step function inductionHypothesis =>
      exact arrivesAtFault_of_callees conversion
        (.of_bodyCallees inductionHypothesis)

/-- A walk ends with the fault of a conversion exactly when it arrives at a
visit with this fault. -/
theorem run_error_conversion_iff (conversion : fault.IsConversion)
    {visits : List Visit} :
    (∃ finish, (performAll target locals visits).run start =
        .error fault finish) ↔
      ∃ local' reached, Reaches target local' reached locals visits start ∧
        reached.check target local' = .error fault := by
  constructor
  · rintro ⟨finish, ran⟩
    exact arrivesAtFault_of_callees conversion
      (fun _ _ function _ => arrivesAtFault_body conversion function)
      locals start finish ran
  · rintro ⟨local', reached, reaches, failed⟩
    exact reaches.run_error failed

/-- A lowering ends with the fault of a conversion where the walk over its
entry point does. -/
private theorem lower_conversion_iff (conversion : fault.IsConversion)
    {dialect : Dialect} {shader : Shader} :
    lower dialect shader = .error fault ↔
      ∃ locals, Locals.ofBody [] shader.operations = .ok locals ∧
        ∃ finish,
          (performAll (shader.target dialect) locals
            (bodyVisits 1 shader.operations)).run .start =
              .error fault finish := by
  have outcomeIff : lower dialect shader = .error fault ↔
      ∃ final, (lowerShader dialect shader).run .start =
        .error fault final := by
    unfold lower lowerWithEvents
    cases (lowerShader dialect shader).run .start <;> simp
  rw [outcomeIff]
  unfold lowerShader
  dsimp only
  constructor
  · rintro ⟨final, ran⟩
    rcases run_bind_error_iff.mp ran with collecting |
      ⟨locals, middle, collected, ran⟩
    · exact absurd conversion <| RaisesNoConversion.ofBody _ _ fault
        (run_check_error_iff.mp collecting).1
    obtain ⟨collects, rfl⟩ := run_check_ok.mp collected
    refine ⟨locals, collects, ?_⟩
    rcases run_bind_error_iff.mp ran with body | ⟨_, middle, _, ran⟩
    · rw [lowerBody_eq] at body
      rcases run_bind_error_iff.mp body with walk | ⟨_, _, _, impossible⟩
      · exact ⟨final, walk⟩
      · cases impossible
    -- Nothing behind the walk has to do with conversions.
    rcases run_bind_error_iff.mp ran with precise | ⟨_, _, _, ran⟩
    · exact absurd conversion <| RaisesNoConversion.precisionText _ _ fault
        (run_check_error_iff.mp precise).1
    rcases run_bind_error_iff.mp ran with impossible | ⟨_, _, _, ran⟩
    · cases impossible
    rcases run_bind_error_iff.mp ran with declared | ⟨_, _, _, ran⟩
    · exact absurd conversion <|
        RaisesNoConversion.mapM
          (RaisesNoConversion.declarationText _) _ fault
          (run_check_error_iff.mp declared).1
    · cases ran
  · rintro ⟨locals, collected, finish, ran⟩
    refine ⟨finish, run_bind_error_iff.mpr (.inr
      ⟨locals, .start, run_check_ok.mpr ⟨collected, rfl⟩, ?_⟩)⟩
    refine run_bind_error_iff.mpr (.inl ?_)
    rw [lowerBody_eq]
    exact run_bind_error_iff.mpr (.inl ran)

/-- A lowering ends with the fault of a conversion exactly when it arrives at a
conversion that has this fault. -/
theorem lower_conversionFault_iff (conversion : fault.IsConversion)
    {dialect : Dialect} {shader : Shader} :
    lower dialect shader = .error fault ↔
      ∃ position source type pad,
        shader.Reaches dialect
            (.operation position (.convert source type pad)) ∧
          conversionPadding source type = .error fault := by
  rw [lower_conversion_iff conversion]
  simp only [run_error_conversion_iff conversion,
    Visit.check_conversion_iff conversion]
  constructor
  · rintro ⟨locals, collected, local', reached, reaches, position, source,
      type, pad, rfl, failed⟩
    exact ⟨position, source, type, pad, ⟨locals, local', collected, reaches⟩,
      failed⟩
  · rintro ⟨position, source, type, pad, ⟨locals, local', collected,
      reaches⟩, failed⟩
    exact ⟨locals, collected, local', _, reaches, position, source, type,
      pad, rfl, failed⟩

end Conversions

end Shaderwright
