import Shaderwright.Proofs.Calls
import Shaderwright.Proofs.WrittenText

/-!
Successful walks as a relation between what was met before and after.
`performAll_run_iff` says that lowering makes exactly these walks; all that is
known of a successful walk is proved by induction on `Performs`.
-/

namespace Shaderwright

/-! ## Steps -/

/-- A visit does not ask for a symbol and a function at once. -/
theorem stageUse?_of_callee? {locals : Locals} {visit : Visit}
    {function : ShaderFunction} (called : visit.callee? = some function) :
    visit.stageUse? locals = none := by
  unfold Visit.callee? at called
  split at called
  · rfl
  · cases called

/-- Whether a function that is defined already stands for another one of its
name. -/
def ShaderFunction.StandsFor (known function : ShaderFunction) : Prop :=
  known.handle = function.handle ∨ known.equals function = true

/-- Whether a parameter can be declared at the level of the stage. -/
structure Target.Declares (target : Target) (symbol : Parameter) :
    Prop where
  array : symbol.arrayLength = 0 ∨ symbol.qualifier = .constant
  type : (target.dialect.types symbol.type).isSome
  qualifier : (target.dialect.qualifiers symbol.qualifier).isSome

/-- What has been met, with a further use of a parameter. -/
def Progress.withSymbol (progress : Progress) (isNew : Bool)
    (table : SymbolTable) (symbol : Parameter) : Progress :=
  if isNew then
    { progress with symbols := table }.record
      (.symbolHoisted symbol.symbol)
  else
    progress

/-- What has been met, with a further definition. -/
def Progress.withDefinition (progress : Progress)
    (definition : Definition) : Progress :=
  { progress with
      definitions := progress.definitions ++ [definition] }.record
    (.functionHoisted definition.function.name
      definition.function.parameters.length)

/-- The definition of a function as lowering writes it. -/
def ShaderFunction.definition (target : Target)
    (function : ShaderFunction) : Definition :=
  ⟨function, function.definitionText target⟩

/-- The successful walks over a list of visits. A function that is defined
already is passed over; the walk over the body of any other one stands inside
the walk over the body that calls it. -/
inductive Performs (target : Target) :
    Locals → List Visit → Progress → Progress → Prop
  | done {locals : Locals} {progress : Progress} :
      Performs target locals [] progress progress
  | plain {locals : Locals} {visit : Visit} {rest : List Visit}
      {start finish : Progress}
      (checked : visit.check target locals = .ok ())
      (noSymbol : visit.stageUse? locals = none)
      (noFunction : visit.callee? = none)
      (later : Performs target locals rest start finish) :
      Performs target locals (visit :: rest) start finish
  | symbol {locals : Locals} {visit : Visit} {rest : List Visit}
      {start finish : Progress} {symbol : Parameter} {isNew : Bool}
      {table : SymbolTable}
      (checked : visit.check target locals = .ok ())
      (used : visit.stageUse? locals = some symbol)
      (declarable : target.Declares symbol)
      (inserted : start.symbols.insert symbol = .ok (isNew, table))
      (later : Performs target locals rest
        (start.withSymbol isNew table symbol) finish) :
      Performs target locals (visit :: rest) start finish
  | known {locals : Locals} {visit : Visit} {rest : List Visit}
      {start finish : Progress} {function : ShaderFunction}
      {definition : Definition}
      (checked : visit.check target locals = .ok ())
      (called : visit.callee? = some function)
      (found : start.definition? function.name = some definition)
      (same : definition.function.StandsFor function)
      (later : Performs target locals rest start finish) :
      Performs target locals (visit :: rest) start finish
  | defined {locals inner : Locals} {visit : Visit} {rest : List Visit}
      {start middle finish : Progress} {function : ShaderFunction}
      (checked : visit.check target locals = .ok ())
      (called : visit.callee? = some function)
      (missing : start.definition? function.name = none)
      (collected :
        Locals.ofBody function.parameters function.body = .ok inner)
      (signed : outcome (function.signature target) = .ok ())
      (body : Performs target inner (bodyVisits 1 function.body)
        start middle)
      (untaken : middle.definition? function.name = none)
      (later : Performs target locals rest
        (middle.withDefinition (function.definition target)) finish) :
      Performs target locals (visit :: rest) start finish

/-! ## Lowering makes these walks -/

private theorem run_bind_ok {α β : Type} {first : Lowering α}
    {next : α → Lowering β} {start finish : Progress} {result : β} :
    (first >>= next).run start = .ok result finish ↔
      ∃ value middle,
        first.run start = .ok value middle ∧
          (next value).run middle = .ok result finish := by
  rw [EStateM.run_bind]
  cases ran : first.run start with
  | ok value middle =>
      constructor
      · intro later
        exact ⟨value, middle, rfl, later⟩
      · rintro ⟨_, _, equality, later⟩
        cases equality
        exact later
  | error fault middle =>
      simp

private theorem run_pure_ok {α : Type} {value result : α}
    {start finish : Progress} :
    (pure value : Lowering α).run start = .ok result finish ↔
      value = result ∧ start = finish := by
  simp [EStateM.run_pure]

private theorem not_run_throw_ok {α : Type} {fault : LoweringError}
    {value : α} {start finish : Progress} :
    ¬ (throw fault : Lowering α).run start = .ok value finish := by
  intro ran
  cases ran

theorem run_check_ok {α : Type}
    {result : Except LoweringError α} {start finish : Progress}
    {value : α} :
    (Lowering.check result).run start = .ok value finish ↔
      result = .ok value ∧ start = finish := by
  cases result with
  | ok found =>
      simp
  | error fault =>
      simp [not_run_throw_ok]

private theorem run_set_ok {value start finish : Progress} :
    (set value : Lowering Unit).run start = .ok () finish ↔
      value = finish := by
  simp [EStateM.run_set]

/-- A check in front of a walk is passed without a trace. -/
private theorem run_check_then {α β : Type}
    {result : Except LoweringError α} {next : α → Lowering β}
    {start finish : Progress} {value : β} :
    (Lowering.check result >>= next).run start = .ok value finish ↔
      ∃ found, result = .ok found ∧
        (next found).run start = .ok value finish := by
  rw [run_bind_ok]
  constructor
  · rintro ⟨found, middle, passed, later⟩
    obtain ⟨equality, rfl⟩ := run_check_ok.mp passed
    exact ⟨found, equality, later⟩
  · rintro ⟨found, equality, later⟩
    exact ⟨found, start, run_check_ok.mpr ⟨equality, rfl⟩, later⟩

private theorem run_unit_check_then {β : Type}
    {result : Except LoweringError Unit} {next : Unit → Lowering β}
    {start finish : Progress} {value : β} :
    (Lowering.check result >>= next).run start = .ok value finish ↔
      result = .ok () ∧ (next ()).run start = .ok value finish := by
  rw [run_check_then]
  constructor
  · rintro ⟨⟨⟩, passed, later⟩
    exact ⟨passed, later⟩
  · rintro ⟨passed, later⟩
    exact ⟨(), passed, later⟩

private theorem run_get_then {β : Type}
    {next : Progress → Lowering β} {start finish : Progress} {value : β} :
    (get >>= next).run start = .ok value finish ↔
      (next start).run start = .ok value finish := by
  rfl

theorem Target.typeKeyword_ok_iff (target : Target) (type : ShaderType)
    (usedBy : String) :
    (∃ word, target.typeKeyword type usedBy = .ok word) ↔
      (target.dialect.types type).isSome := by
  unfold Target.typeKeyword
  cases target.dialect.types type <;> simp

theorem Target.qualifierKeyword_ok_iff (target : Target)
    (qualifier : Qualifier) (usedBy : String) :
    (∃ word, target.qualifierKeyword qualifier usedBy = .ok word) ↔
      (target.dialect.qualifiers qualifier).isSome := by
  unfold Target.qualifierKeyword
  cases target.dialect.qualifiers qualifier <;> simp

/-- An insertion either adds the symbol of a new name or finds the name
declared alike. -/
theorem SymbolTable.insert_ok_iff {table other : SymbolTable}
    {parameter : Parameter} {isNew : Bool} :
    table.insert parameter = .ok (isNew, other) ↔
      (isNew = true ∧ table.find? parameter.name = none ∧
          other = ⟨table.symbols ++ [parameter.symbol]⟩) ∨
        (isNew = false ∧ other = table ∧
          ∃ known, table.find? parameter.name = some known ∧
            known.shape = parameter.symbol.shape) := by
  have name : parameter.symbol.name = parameter.name := rfl
  unfold SymbolTable.insert
  dsimp only
  rw [name]
  cases table.find? parameter.name with
  | none =>
      cases isNew <;> simp [eq_comm]
  | some known =>
      by_cases alike : known.shape = parameter.symbol.shape
      · cases isNew <;> simp [alike, eq_comm]
      · simp [alike]

/-- A parameter becomes a symbol of the stage exactly when it can be declared
and agrees with the symbol of its name. -/
theorem hoistParameter_run_iff {target : Target} {symbol : Parameter}
    {start finish : Progress} :
    (hoistParameter target symbol).run start = .ok () finish ↔
      target.Declares symbol ∧
        ∃ isNew table,
          start.symbols.insert symbol = .ok (isNew, table) ∧
            start.withSymbol isNew table symbol = finish := by
  unfold hoistParameter
  by_cases array : 0 < symbol.arrayLength ∧ symbol.qualifier ≠ .constant
  · have undeclarable : ¬ target.Declares symbol := by
      intro declarable
      rcases declarable.array with noArray | constant
      · omega
      · exact array.2 constant
    simp [array, undeclarable]
  · have noFault : symbol.arrayLength = 0 ∨ symbol.qualifier = .constant := by
      by_cases constant : symbol.qualifier = .constant
      · exact Or.inr constant
      · exact Or.inl <| Nat.eq_zero_of_not_pos fun positive =>
          array ⟨positive, constant⟩
    simp only [array, if_false, run_check_then, run_get_then]
    constructor
    · rintro ⟨type, typeOk, qualifier, qualifierOk, ⟨isNew, table⟩,
        inserted, later⟩
      refine ⟨⟨noFault, ?_, ?_⟩, isNew, table, inserted, ?_⟩
      · exact (target.typeKeyword_ok_iff _ _).mp ⟨type, typeOk⟩
      · exact (target.qualifierKeyword_ok_iff _ _).mp
          ⟨qualifier, qualifierOk⟩
      · cases isNew with
        | true =>
            exact run_set_ok.mp later
        | false =>
            exact (run_pure_ok.mp later).2
    · rintro ⟨declarable, isNew, table, inserted, rfl⟩
      obtain ⟨type, typeOk⟩ :=
        (target.typeKeyword_ok_iff _ symbol.name).mpr declarable.type
      obtain ⟨qualifier, qualifierOk⟩ :=
        (target.qualifierKeyword_ok_iff _ symbol.name).mpr
          declarable.qualifier
      refine ⟨type, typeOk, qualifier, qualifierOk, (isNew, table),
        inserted, ?_⟩
      cases isNew with
      | true =>
          exact run_set_ok.mpr rfl
      | false =>
          exact run_pure_ok.mpr ⟨rfl, rfl⟩

theorem addDefinition_run_iff {definition : Definition}
    {start finish : Progress} :
    (addDefinition definition).run start = .ok () finish ↔
      start.definition? definition.function.name = none ∧
        start.withDefinition definition = finish := by
  unfold addDefinition
  rw [run_get_then]
  dsimp only
  cases start.definition? definition.function.name with
  | none =>
      simp only [Option.isSome_none, Bool.false_eq_true, if_false, true_and]
      exact run_set_ok
  | some known =>
      simp

/-- What a function demands of the walk: nothing if it is defined, else the
walk over its body and its definition. -/
theorem hoistFunction_run_iff {target : Target}
    {function : ShaderFunction} {start finish : Progress} :
    (hoistFunction target function).run start = .ok () finish ↔
      (∃ definition,
        start.definition? function.name = some definition ∧
          definition.function.StandsFor function ∧ start = finish) ∨
      (start.definition? function.name = none ∧
        ∃ inner middle,
          Locals.ofBody function.parameters function.body = .ok inner ∧
            outcome (function.signature target) = .ok () ∧
            (performAll target inner (bodyVisits 1 function.body)).run
              start = .ok () middle ∧
            middle.definition? function.name = none ∧
            middle.withDefinition (function.definition target) =
              finish) := by
  rw [hoistFunction_eq, run_get_then]
  cases start.definition? function.name with
  | some definition =>
      dsimp only
      by_cases same : definition.function.StandsFor function
      · have accepted :
            (definition.function.handle == function.handle ||
              definition.function.equals function) = true := by
          simpa [ShaderFunction.StandsFor] using same
        simp [accepted, same]
      · have refused :
            (definition.function.handle == function.handle ||
              definition.function.equals function) = false := by
          simpa [ShaderFunction.StandsFor] using same
        simp [refused, same]
  | none =>
      dsimp only
      rw [run_check_then]
      constructor
      · rintro ⟨inner, collected, later⟩
        rw [run_unit_check_then, run_bind_ok] at later
        obtain ⟨signed, ⟨⟩, middle, body, added⟩ := later
        obtain ⟨untaken, equality⟩ := addDefinition_run_iff.mp added
        exact Or.inr ⟨rfl, inner, middle, collected, signed, body, untaken,
          equality⟩
      · rintro (⟨_, impossible, _⟩ |
          ⟨_, inner, middle, collected, signed, body, untaken, equality⟩)
        · cases impossible
        · refine ⟨inner, collected, ?_⟩
          rw [run_unit_check_then, run_bind_ok]
          exact ⟨signed, (), middle, body,
            addDefinition_run_iff.mpr ⟨untaken, equality⟩⟩

private theorem perform_run_iff {target : Target} {locals : Locals}
    {visit : Visit} {start finish : Progress} :
    (visit.perform target locals).run start = .ok () finish ↔
      visit.check target locals = .ok () ∧
        ((visit.stageUse? locals = none ∧ visit.callee? = none ∧
            start = finish) ∨
          (∃ symbol, visit.stageUse? locals = some symbol ∧
            (hoistParameter target symbol).run start = .ok () finish) ∨
          (visit.stageUse? locals = none ∧
            ∃ function, visit.callee? = some function ∧
              (hoistFunction target function).run start =
                .ok () finish)) := by
  unfold Visit.perform
  rw [run_unit_check_then]
  cases visit.stageUse? locals with
  | some symbol =>
      simp
  | none =>
      cases visit.callee? with
      | some function =>
          simp
      | none =>
          simp

/-- The walks that lowering makes over the body of a function are walks of
the relation. -/
private def BodyPerforms (target : Target) (function : ShaderFunction) :
    Prop :=
  ∀ (locals : Locals) (start finish : Progress),
    (performAll target locals (bodyVisits 1 function.body)).run start =
        .ok () finish →
      Performs target locals (bodyVisits 1 function.body) start finish

private theorem performs_of_run {target : Target} :
    ∀ {visits : List Visit},
      CalleesSatisfy (BodyPerforms target) visits →
      ∀ (locals : Locals) (start finish : Progress),
        (performAll target locals visits).run start = .ok () finish →
          Performs target locals visits start finish
  | [], _, _, _, _, ran => by
      cases ran
      exact .done
  | visit :: rest, bodies, locals, start, finish, ran => by
      rw [performAll_cons, run_bind_ok] at ran
      obtain ⟨⟨⟩, middle, first, later⟩ := ran
      have laterWalk :=
        performs_of_run bodies.tail locals middle finish later
      obtain ⟨checked, step⟩ := perform_run_iff.mp first
      rcases step with ⟨noSymbol, noFunction, rfl⟩ |
        ⟨symbol, used, hoisted⟩ |
        ⟨_, function, called, hoisted⟩
      · exact .plain checked noSymbol noFunction laterWalk
      · obtain ⟨declarable, isNew, table, inserted, rfl⟩ :=
          hoistParameter_run_iff.mp hoisted
        exact .symbol checked used declarable inserted laterWalk
      · rcases hoistFunction_run_iff.mp hoisted with
          ⟨definition, found, same, rfl⟩ |
          ⟨missing, inner, final, collected, signed, body, untaken, rfl⟩
        · exact .known checked called found same laterWalk
        · have bodyWalk := bodies.head called inner start final body
          exact .defined checked called missing collected signed bodyWalk
            untaken laterWalk

private theorem bodyPerforms (target : Target)
    (function : ShaderFunction) : BodyPerforms target function := by
  induction function using ShaderFunction.callee_induction with
  | step function inductionHypothesis =>
      exact performs_of_run (.of_bodyCallees inductionHypothesis)

/-- Every walk of the relation is made by lowering. -/
private theorem run_of_performs {target : Target} {locals : Locals}
    {visits : List Visit} {start finish : Progress}
    (walk : Performs target locals visits start finish) :
    (performAll target locals visits).run start = .ok () finish := by
  induction walk with
  | done =>
      rfl
  | plain checked noSymbol noFunction _ laterRan =>
      rw [performAll_cons, run_bind_ok]
      exact ⟨(), _, perform_run_iff.mpr ⟨checked,
        Or.inl ⟨noSymbol, noFunction, rfl⟩⟩, laterRan⟩
  | symbol checked used declarable inserted _ laterRan =>
      rw [performAll_cons, run_bind_ok]
      refine ⟨(), _, perform_run_iff.mpr ⟨checked,
        Or.inr (Or.inl ⟨_, used, ?_⟩)⟩, laterRan⟩
      exact hoistParameter_run_iff.mpr
        ⟨declarable, _, _, inserted, rfl⟩
  | known checked called found same _ laterRan =>
      rw [performAll_cons, run_bind_ok]
      refine ⟨(), _, perform_run_iff.mpr ⟨checked, Or.inr (Or.inr
        ⟨stageUse?_of_callee? called, _, called, ?_⟩)⟩, laterRan⟩
      exact hoistFunction_run_iff.mpr (Or.inl ⟨_, found, same, rfl⟩)
  | defined checked called missing collected signed _ untaken _ bodyRan
      laterRan =>
      rw [performAll_cons, run_bind_ok]
      refine ⟨(), _, perform_run_iff.mpr ⟨checked, Or.inr (Or.inr
        ⟨stageUse?_of_callee? called, _, called, ?_⟩)⟩, laterRan⟩
      exact hoistFunction_run_iff.mpr (Or.inr ⟨missing, _, _, collected,
        signed, bodyRan, untaken, rfl⟩)

/-- Lowering makes exactly the walks of the relation. -/
theorem performAll_run_iff {target : Target} {locals : Locals}
    {visits : List Visit} {start finish : Progress} :
    (performAll target locals visits).run start = .ok () finish ↔
      Performs target locals visits start finish := by
  constructor
  · intro ran
    exact performs_of_run (fun _ _ function _ => bodyPerforms target function)
      locals start finish ran
  · exact run_of_performs

/-- A body is lowered exactly by a walk over it, and to its text. -/
theorem lowerBody_run_iff {target : Target} {locals : Locals}
    {level : Nat} {body : List Operation} {start finish : Progress}
    {text : String} :
    (lowerBody target locals level body).run start = .ok text finish ↔
      Performs target locals (bodyVisits level body) start finish ∧
        text = bodyText target level body := by
  rw [lowerBody_eq, run_bind_ok]
  constructor
  · rintro ⟨⟨⟩, middle, walk, written⟩
    obtain ⟨rfl, rfl⟩ := run_pure_ok.mp written
    exact ⟨performAll_run_iff.mp walk, rfl⟩
  · rintro ⟨walk, rfl⟩
    exact ⟨(), finish, performAll_run_iff.mpr walk,
      run_pure_ok.mpr ⟨rfl, rfl⟩⟩

theorem lowerOperand_run_iff {target : Target} {locals : Locals}
    {operand : Operand} {start finish : Progress} {text : String} :
    (lowerOperand target locals operand).run start = .ok text finish ↔
      Performs target locals operand.visits start finish ∧
        text = operand.text target := by
  rw [lowerOperand_eq, run_bind_ok]
  constructor
  · rintro ⟨⟨⟩, middle, walk, written⟩
    obtain ⟨rfl, rfl⟩ := run_pure_ok.mp written
    exact ⟨performAll_run_iff.mp walk, rfl⟩
  · rintro ⟨walk, rfl⟩
    exact ⟨(), finish, performAll_run_iff.mpr walk,
      run_pure_ok.mpr ⟨rfl, rfl⟩⟩

/-! ## Whole shaders -/

/-- What a shader is lowered for in a dialect. -/
def Shader.target (dialect : Dialect) (shader : Shader) : Target :=
  ⟨dialect, shader.stage⟩

/-- The text of the entry point of a shader. -/
def Shader.entryText (dialect : Dialect) (shader : Shader) : String :=
  "\nvoid " ++ dialect.entryPoint ++ "() \x7b\n" ++
    bodyText (shader.target dialect) 1 shader.operations ++ "\x7d\n"

/-- A shader is lowered exactly by a walk over its body from the start. The
source is the precision, the declarations of the symbols, the definitions and
the entry point. -/
theorem lower_ok_iff {dialect : Dialect} {shader : Shader}
    {compiled : CompiledShader} :
    lower dialect shader = .ok compiled ↔
      ∃ locals finish precision declarations,
        Locals.ofBody [] shader.operations = .ok locals ∧
        Performs (shader.target dialect) locals
          (bodyVisits 1 shader.operations) .start finish ∧
        (shader.target dialect).precisionText shader.precision =
          .ok precision ∧
        finish.symbols.symbols.mapM
          (shader.target dialect).declarationText = .ok declarations ∧
        compiled =
          ⟨shader.stage,
            precision ++ String.join declarations ++
              String.join (finish.definitions.map Definition.text) ++
              shader.entryText dialect,
            finish.symbols.symbols,
            finish.definitions.map fun known => known.function.name⟩ := by
  have outcomeIff :
      lower dialect shader = .ok compiled ↔
        ∃ final, (lowerShader dialect shader).run .start =
          .ok compiled final := by
    unfold lower lowerWithEvents
    cases (lowerShader dialect shader).run .start with
    | ok found final =>
        simp
    | error fault final =>
        simp
  rw [outcomeIff]
  unfold lowerShader
  dsimp only
  constructor
  · rintro ⟨final, ran⟩
    rw [run_check_then] at ran
    obtain ⟨locals, collected, ran⟩ := ran
    rw [run_bind_ok] at ran
    obtain ⟨body, finish, walked, ran⟩ := ran
    obtain ⟨walk, rfl⟩ := lowerBody_run_iff.mp walked
    rw [run_check_then] at ran
    obtain ⟨precision, precise, ran⟩ := ran
    rw [run_get_then, run_check_then] at ran
    obtain ⟨declarations, declared, ran⟩ := ran
    rw [run_bind_ok] at ran
    obtain ⟨⟨⟩, middle, _, returned⟩ := ran
    obtain ⟨rfl, _⟩ := run_pure_ok.mp returned
    refine ⟨locals, finish, precision, declarations, collected, walk,
      precise, declared, ?_⟩
    simp [Shader.entryText, Shader.target, String.append_assoc]
  · rintro ⟨locals, finish, precision, declarations, collected, walk,
      precise, declared, rfl⟩
    apply Exists.intro
    rw [run_check_then]
    refine ⟨locals, collected, ?_⟩
    rw [run_bind_ok]
    refine ⟨_, finish, lowerBody_run_iff.mpr ⟨walk, rfl⟩, ?_⟩
    rw [run_check_then]
    refine ⟨precision, precise, ?_⟩
    rw [run_get_then, run_check_then]
    refine ⟨declarations, declared, ?_⟩
    rw [run_bind_ok]
    refine ⟨(), _, run_set_ok.mpr rfl, ?_⟩
    refine run_pure_ok.mpr ⟨?_, rfl⟩
    simp [Shader.entryText, Shader.target, String.append_assoc]

end Shaderwright
