import Shaderwright.Proofs.LoweredShader

/-!
Functions that share a name. Where the bodies and the signatures of a shader
are acceptable, one fault is left for lowering to meet: a name that is taken by
another function (`Shader.AcceptableBodies.hoistFunction_ends`). A name clashes
where the functions that bear it do not stand for each other.
-/

namespace Shaderwright

/-! ## Clashes -/

/-- The conditions on the bodies and the signatures of a shader, which are all
but those on the names of its functions and on its precision. -/
structure Shader.AcceptableBodies (dialect : Dialect) (shader : Shader) :
    Prop where
  scopes : ∀ scope, shader.HasScope scope →
    scope.Acceptable (shader.target dialect)
  stageUsesAlike : ∀ first, shader.StageUse first →
    ∀ second, shader.StageUse second →
      first.name = second.name → first.symbol = second.symbol
  stageUsesDeclarable : ∀ symbol, shader.StageUse symbol →
    (shader.target dialect).Declares symbol
  signatures : ∀ function, CalledFrom shader.operations function →
    function.Declarable (shader.target dialect)

theorem Shader.Acceptable.bodies {dialect : Dialect} {shader : Shader}
    (acceptable : shader.Acceptable dialect) :
    shader.AcceptableBodies dialect :=
  ⟨acceptable.scopes, acceptable.stageUsesAlike,
    acceptable.stageUsesDeclarable, acceptable.signatures⟩

/-- A name is that of two functions of a shader, and the first one does not
stand for the second one. -/
def Shader.Clashes (shader : Shader) (name : String) : Prop :=
  ∃ first second, CalledFrom shader.operations first ∧
    CalledFrom shader.operations second ∧ first.name = name ∧
    second.name = name ∧ ¬ first.StandsFor second

theorem Shader.Acceptable.not_clashes {dialect : Dialect} {shader : Shader}
    (acceptable : shader.Acceptable dialect) (name : String) :
    ¬ shader.Clashes name := by
  rintro ⟨first, second, calledFirst, calledSecond, rfl, named, apart⟩
  exact apart <| acceptable.functionsAlike first calledFirst second
    calledSecond named.symm

/-! ## Walks up to a clash -/

/-- What is met belongs to a shader: its symbols are used by the shader, and
its functions are called from the entry point. -/
structure Progress.Within (shader : Shader) (progress : Progress) :
    Prop where
  symbols : ∀ symbol ∈ progress.symbols.symbols,
    ∃ parameter, shader.StageUse parameter ∧ parameter.symbol = symbol
  definitions : ∀ definition ∈ progress.definitions,
    CalledFrom shader.operations definition.function

theorem Progress.start_within (shader : Shader) :
    Progress.start.Within shader := by
  constructor
  · intro symbol impossible
    cases impossible
  · intro definition impossible
    cases impossible

theorem Progress.Within.withDefinition {shader : Shader}
    {progress : Progress} (within : progress.Within shader)
    {function : ShaderFunction}
    (called : CalledFrom shader.operations function) {target : Target} :
    (progress.withDefinition (function.definition target)).Within
      shader := by
  refine ⟨within.symbols, ?_⟩
  intro definition member
  rw [Progress.definitions_withDefinition] at member
  rcases List.mem_append.mp member with old | new
  · exact within.definitions definition old
  · rw [List.mem_singleton.mp new]
    exact called

/-- A step of the walk succeeds and stays within a shader, or it meets a clash
of names. -/
def Shader.Ends {α : Type} (shader : Shader) (step : Lowering α)
    (start : Progress) : Prop :=
  (∃ value finish, step.run start = .ok value finish ∧
    finish.Within shader) ∨
  ∃ name finish, step.run start = .error (.inconsistentFunction name)
    finish ∧ shader.Clashes name

namespace Shader.Ends

variable {α β : Type} {shader : Shader} {start : Progress}

theorem pure (value : α) (within : start.Within shader) :
    shader.Ends (Pure.pure value) start :=
  Or.inl ⟨value, start, rfl, within⟩

theorem bind {step : Lowering α} {next : α → Lowering β}
    (ends : shader.Ends step start)
    (later : ∀ value middle, step.run start = .ok value middle →
      middle.Within shader → shader.Ends (next value) middle) :
    shader.Ends (step >>= next) start := by
  unfold Shader.Ends
  rw [EStateM.run_bind]
  rcases ends with ⟨value, middle, ran, within⟩ |
    ⟨name, finish, ran, clashes⟩
  · rw [ran]
    exact later value middle ran within
  · rw [ran]
    exact Or.inr ⟨name, finish, rfl, clashes⟩

end Shader.Ends

section Walks

variable {dialect : Dialect} {shader : Shader}

/-- A use of the stage can be inserted, and the table still belongs to the
shader. -/
private theorem exists_insert (bodies : shader.AcceptableBodies dialect)
    {start : Progress} (within : start.Within shader) {symbol : Parameter}
    (used : shader.StageUse symbol) :
    ∃ isNew table,
      start.symbols.insert symbol = .ok (isNew, table) ∧
        (start.withSymbol isNew table symbol).Within shader := by
  cases found : start.symbols.find? symbol.name with
  | none =>
      have inserted : start.symbols.insert symbol =
          .ok (true, ⟨start.symbols.symbols ++ [symbol.symbol]⟩) :=
        SymbolTable.insert_ok_iff.mpr (Or.inl ⟨rfl, found, rfl⟩)
      refine ⟨_, _, inserted, ?_, ?_⟩
      · rw [Progress.symbols_withSymbol inserted]
        intro other member
        rcases List.mem_append.mp member with old | new
        · exact within.symbols other old
        · exact ⟨symbol, used, (List.mem_singleton.mp new).symm⟩
      · simpa using within.definitions
  | some known =>
      obtain ⟨member, named⟩ := SymbolTable.find?_some found
      obtain ⟨parameter, usedEarlier, rfl⟩ := within.symbols known member
      have same :=
        bodies.stageUsesAlike parameter usedEarlier symbol used named
      have inserted : start.symbols.insert symbol =
          .ok (false, start.symbols) :=
        SymbolTable.insert_ok_iff.mpr <|
          Or.inr ⟨rfl, rfl, _, found, congrArg Symbol.shape same⟩
      exact ⟨_, _, inserted, within⟩

/-- A visit of the shader ends, once the function that it calls does. -/
private theorem perform_ends (bodies : shader.AcceptableBodies dialect)
    {scope : Scope} (inShader : shader.HasScope scope) {inner : Locals}
    (collects : inner.Collects scope.locals) {visit : Visit}
    (member : visit ∈ scope.visits) {start : Progress}
    (within : start.Within shader)
    (hoisted : ∀ function, visit.callee? = some function →
      shader.Ends (hoistFunction (shader.target dialect) function) start) :
    shader.Ends (visit.perform (shader.target dialect) inner) start := by
  have checked : visit.check (shader.target dialect) inner = .ok () :=
    (visit.check_ok_iff _ collects).mpr <|
      (bodies.scopes scope inShader).visits visit member
  unfold Visit.perform
  rw [checked, Lowering.check_ok, pure_bind]
  cases uses : visit.stageUse? inner with
  | some symbol =>
      have used : shader.StageUse symbol :=
        ⟨scope, inShader, (Scope.stageUse_iff collects).mpr
          ⟨visit, member, uses⟩⟩
      obtain ⟨isNew, table, inserted, nextWithin⟩ :=
        exists_insert bodies within used
      exact Or.inl ⟨(), _, hoistParameter_run_iff.mpr
        ⟨bodies.stageUsesDeclarable symbol used, isNew, table, inserted,
          rfl⟩, nextWithin⟩
  | none =>
      cases calls : visit.callee? with
      | none =>
          exact .pure () within
      | some function =>
          exact hoisted function calls

private theorem performAll_ends (bodies : shader.AcceptableBodies dialect)
    {scope : Scope} (inShader : shader.HasScope scope) {inner : Locals}
    (collects : inner.Collects scope.locals)
    (hoisted : ∀ function ∈ bodyCallees scope.body, ∀ start : Progress,
      start.Within shader →
        shader.Ends (hoistFunction (shader.target dialect) function) start) :
    ∀ {visits : List Visit}, (∀ visit ∈ visits, visit ∈ scope.visits) →
      ∀ start : Progress, start.Within shader →
        shader.Ends (performAll (shader.target dialect) inner visits) start
  | [], _, start, within => .pure () within
  | visit :: rest, inScope, start, within => by
      rw [List.forall_mem_cons] at inScope
      rw [performAll_cons]
      refine (perform_ends bodies inShader collects inScope.1 within
        fun function calls => ?_).bind fun _ middle _ middleWithin =>
          performAll_ends bodies inShader collects hoisted inScope.2 middle
            middleWithin
      exact hoisted function
        (mem_bodyCallees_iff.mpr ⟨visit, inScope.1, calls⟩) start within

/-- Once the body of a function is walked, its name is free, or it clashes with
the name of a function below. -/
private theorem addDefinition_ends (agree : shader.HandlesAgree)
    {function : ShaderFunction}
    (called : CalledFrom shader.operations function) {inner : Locals}
    {start middle : Progress}
    (missing : start.definition? function.name = none)
    (walk : Performs (shader.target dialect) inner
      (bodyVisits 1 function.body) start middle)
    (within : middle.Within shader) :
    shader.Ends
      (addDefinition (function.definition (shader.target dialect)))
      middle := by
  cases taken : middle.definition? function.name with
  | none =>
      exact Or.inl ⟨(), _, addDefinition_run_iff.mpr ⟨taken, rfl⟩,
        within.withDefinition called⟩
  | some definition =>
      obtain ⟨member, named⟩ := Progress.definition?_some taken
      rw [Progress.definition?_eq_none_iff] at missing
      have below : CalledFrom function.body definition.function := by
        rcases walk.calledFrom_of_mem definition member with old | below
        · exact absurd named (missing definition old)
        · exact below
      have calledBelow := called.trans below
      refine Or.inr ⟨function.name, middle, ?_, function,
        definition.function, called, calledBelow, rfl, named, fun same => ?_⟩
      · have refused :
            (middle.definition? function.name).isSome = true := by
          rw [taken]
          rfl
        unfold addDefinition
        simp [ShaderFunction.definition, refused]
      · -- The function would be called from its own body.
        exact not_calledFrom_of_canonical_eq
          (agree.canonical_eq_of_standsFor called calledBelow same) below

/-- Lowering defines every function of a shader, or it meets a clash. The
induction runs from the callees up. -/
theorem Shader.AcceptableBodies.hoistFunction_ends
    (bodies : shader.AcceptableBodies dialect)
    (agree : shader.HandlesAgree) (function : ShaderFunction)
    (called : CalledFrom shader.operations function) :
    ∀ start : Progress, start.Within shader →
      shader.Ends (hoistFunction (shader.target dialect) function)
        start := by
  induction function using ShaderFunction.callee_induction with
  | step function inductionHypothesis =>
      intro start within
      rw [hoistFunction_eq]
      refine Shader.Ends.bind (Or.inl ⟨start, start, rfl, within⟩)
        fun _ middle ran _ => ?_
      cases ran
      cases found : start.definition? function.name with
      | some known =>
          obtain ⟨member, named⟩ := Progress.definition?_some found
          dsimp only
          by_cases same : known.function.StandsFor function
          · have accepted :
                (known.function.handle == function.handle ||
                  known.function.equals function) = true := by
              simpa [ShaderFunction.StandsFor] using same
            rw [if_pos accepted]
            exact .pure () within
          · have refused :
                ¬ (known.function.handle == function.handle ||
                  known.function.equals function) = true := by
              simpa [ShaderFunction.StandsFor] using same
            rw [if_neg refused]
            exact Or.inr ⟨function.name, start, rfl, known.function,
              function, within.definitions known member, called, named, rfl,
              same⟩
      | none =>
          have inShader : shader.HasScope function.scope := .callee called
          obtain ⟨inner, collected⟩ :=
            Locals.ofDeclarations_ok_iff.mpr
              (bodies.scopes _ inShader).localsAlike
          have body := performAll_ends bodies inShader
            (Locals.collects_ofDeclarations collected)
            (fun callee below => inductionHypothesis callee below
              (.through called below))
            (fun _ member => member) start within
          have collects :
              Locals.ofBody function.parameters function.body = .ok inner :=
            collected
          dsimp only
          rw [collects, Lowering.check_ok, pure_bind,
            signature_passes_iff.mpr (bodies.signatures function called),
            Lowering.check_ok, pure_bind]
          refine body.bind fun _ middle ran middleWithin => ?_
          exact addDefinition_ends agree called found
            (performAll_run_iff.mp ran) middleWithin

/-- The walk over the entry point of a shader ends. -/
theorem Shader.AcceptableBodies.entry_ends
    (bodies : shader.AcceptableBodies dialect)
    (agree : shader.HandlesAgree) :
    ∃ locals, Locals.ofBody [] shader.operations = .ok locals ∧
      shader.Ends
        (performAll (shader.target dialect) locals
          (bodyVisits 1 shader.operations)) .start := by
  obtain ⟨locals, collected⟩ :=
    Locals.ofDeclarations_ok_iff.mpr (bodies.scopes _ .entry).localsAlike
  exact ⟨locals, collected, performAll_ends bodies .entry
    (Locals.collects_ofDeclarations collected)
    (fun function below => bodies.hoistFunction_ends agree function
      (.direct below))
    (fun _ member => member) .start (Progress.start_within shader)⟩

end Walks

end Shaderwright
