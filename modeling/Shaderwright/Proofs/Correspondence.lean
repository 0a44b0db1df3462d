import Mathlib.Data.List.Forall2
import Shaderwright.Proofs.BareTree
import Shaderwright.Proofs.Run

/-!
Two runs of lowering side by side. The functions of one shader correspond to
the functions of another one, and the two trees differ in handles only. Then
lowering meets the same at every step, and both shaders have one outcome with
one list of events (`lowerWithEvents_eq_of_correspondence`).
-/

namespace Shaderwright

/-! ## Functions that differ in handles only -/

/-- The callees of bodies that differ in handles only. -/
theorem bodyCallees_bare_eq {body body' : List Operation}
    (same : relabeledBody .bare body = relabeledBody .bare body') :
    (bodyCallees body).map ShaderFunction.bare =
      (bodyCallees body').map ShaderFunction.bare := by
  have callees := congrArg bodyCallees same
  rwa [bodyCallees_relabeled, bodyCallees_relabeled] at callees

/-- Functions agree in everything but handles. -/
def SameBare (first second : ShaderFunction) : Prop :=
  first.bare = second.bare

section SameBare

variable {first second : ShaderFunction}

theorem SameBare.callees (same : SameBare first second) :
    (bodyCallees first.body).map ShaderFunction.bare =
      (bodyCallees second.body).map ShaderFunction.bare := by
  have bodies := congrArg ShaderFunction.body same
  rw [ShaderFunction.body_relabeled, ShaderFunction.body_relabeled]
    at bodies
  exact bodyCallees_bare_eq bodies

theorem SameBare.naNFree_iff (same : SameBare first second) :
    first.NaNFree ↔ second.NaNFree := by
  have bareIff (function : ShaderFunction) :
      function.bare.NaNFree ↔ function.NaNFree :=
    ShaderFunction.naNFree_relabeled_iff rfl function
  rw [← bareIff first, ← bareIff second, same]

theorem SameBare.canonical_eq (same : SameBare first second) :
    first.canonical = second.canonical := by
  rw [← ShaderFunction.canonical_bare, same,
    ShaderFunction.canonical_bare]

/-- Equality of functions does not see handles. -/
theorem SameBare.equals_iff {first' second' : ShaderFunction}
    (same : SameBare first first') (same' : SameBare second second') :
    first.equals second = true ↔ first'.equals second' = true := by
  rw [ShaderFunction.equals_iff, ShaderFunction.equals_iff first',
    ShaderFunction.equals_self_iff, ShaderFunction.equals_self_iff,
    ShaderFunction.equals_self_iff, ShaderFunction.equals_self_iff,
    same.naNFree_iff, same'.naNFree_iff, same.canonical_eq,
    same'.canonical_eq]

end SameBare

/-- Functions that agree one by one in everything but handles. -/
theorem forall₂_of_map_bare_eq
    {related : ShaderFunction → ShaderFunction → Prop} :
    ∀ {functions functions' : List ShaderFunction},
      functions.map ShaderFunction.bare =
        functions'.map ShaderFunction.bare →
      (∀ function ∈ functions, ∀ function' ∈ functions',
        SameBare function function' → related function function') →
      List.Forall₂ related functions functions'
  | [], [], _, _ => .nil
  | [], _ :: _, same, _ => by
      simp at same
  | _ :: _, [], same, _ => by
      simp at same
  | function :: rest, function' :: rest', same, relates => by
      obtain ⟨head, tail⟩ := List.cons.inj same
      refine .cons ?_ (forall₂_of_map_bare_eq tail ?_)
      · exact relates function (List.mem_cons_self ..) function'
          (List.mem_cons_self ..) head
      · intro other member other' member'
        exact relates other (List.mem_cons_of_mem _ member) other'
          (List.mem_cons_of_mem _ member')

/-! ## Corresponding functions -/

/-- What a relation between the functions of two runs has to know: that
related functions differ in handles only, that their callees are related one
by one, and that related functions stand for related ones. -/
structure Correspondence
    (related : ShaderFunction → ShaderFunction → Prop) : Prop where
  bare : ∀ {first second}, related first second → SameBare first second
  callees : ∀ {first second}, related first second →
    List.Forall₂ related (bodyCallees first.body) (bodyCallees second.body)
  standsFor : ∀ {known known' function function'}, related known known' →
    related function function' →
      (known.StandsFor function ↔ known'.StandsFor function')

/-- Definitions of related functions with one text. -/
structure Definition.Alike
    (related : ShaderFunction → ShaderFunction → Prop)
    (first second : Definition) : Prop where
  function : related first.function second.function
  text : first.text = second.text

/-- The same has been met in two runs, with related functions. -/
structure Progress.Alike
    (related : ShaderFunction → ShaderFunction → Prop)
    (first second : Progress) : Prop where
  symbols : first.symbols = second.symbols
  definitions :
    List.Forall₂ (Definition.Alike related) first.definitions
      second.definitions
  events : first.events = second.events

/-- Two ends of a run with one result or one fault. -/
inductive EndsAlike (related : ShaderFunction → ShaderFunction → Prop)
    {α : Type} :
    EStateM.Result LoweringError Progress α →
      EStateM.Result LoweringError Progress α → Prop
  | ok {value : α} {first second : Progress}
      (alike : first.Alike related second) :
      EndsAlike related (.ok value first) (.ok value second)
  | error {fault : LoweringError} {first second : Progress}
      (alike : first.Alike related second) :
      EndsAlike related (.error fault first) (.error fault second)

/-- Two steps that end alike wherever the same has been met before. -/
def RunAlike (related : ShaderFunction → ShaderFunction → Prop) {α : Type}
    (first second : Lowering α) : Prop :=
  ∀ start start' : Progress, start.Alike related start' →
    EndsAlike related (first.run start) (second.run start')

section Runs

variable {related : ShaderFunction → ShaderFunction → Prop}

theorem Progress.Alike.start :
    Progress.Alike related Progress.start Progress.start :=
  ⟨rfl, .nil, rfl⟩

theorem Progress.Alike.record {first second : Progress}
    (alike : first.Alike related second) (event : Event) :
    (first.record event).Alike related (second.record event) := by
  refine ⟨alike.symbols, alike.definitions, ?_⟩
  rw [Progress.record, Progress.record, alike.events]

namespace RunAlike

variable {α β : Type}

theorem pure (value : α) :
    RunAlike related (Pure.pure value) (Pure.pure value) := by
  intro start start' alike
  exact .ok alike

theorem throw (fault : LoweringError) :
    RunAlike related (MonadExcept.throw fault : Lowering α)
      (MonadExcept.throw fault) := by
  intro start start' alike
  exact .error alike

theorem check (result : Except LoweringError α) :
    RunAlike related (Lowering.check result) (Lowering.check result) := by
  cases result with
  | ok value =>
      exact pure value
  | error fault =>
      exact throw fault

theorem bind {first second : Lowering α} {next next' : α → Lowering β}
    (before : RunAlike related first second)
    (after : ∀ value, RunAlike related (next value) (next' value)) :
    RunAlike related (first >>= next) (second >>= next') := by
  intro start start' alike
  have ends := before start start' alike
  rw [EStateM.run_bind, EStateM.run_bind]
  generalize first.run start = end₁ at ends ⊢
  generalize second.run start' = end₂ at ends ⊢
  cases ends with
  | ok alike =>
      exact after _ _ _ alike
  | error alike =>
      exact .error alike

theorem get_then {next next' : Progress → Lowering β}
    (after : ∀ progress progress' : Progress,
      progress.Alike related progress' →
        RunAlike related (next progress) (next' progress')) :
    RunAlike related (get >>= next) (get >>= next') := by
  intro start start' alike
  exact after start start' alike start start' alike

theorem set {first second : Progress} (alike : first.Alike related second) :
    RunAlike related (MonadStateOf.set first : Lowering PUnit)
      (MonadStateOf.set second) := by
  intro _ _ _
  exact .ok alike

/-- Two checks that find the same, up to something that later steps do not
tell apart. -/
theorem check_then {γ : Type} {view : α → γ}
    {first second : Except LoweringError α} {next next' : α → Lowering β}
    (same : first.map view = second.map view)
    (after : ∀ value value', view value = view value' →
      RunAlike related (next value) (next' value')) :
    RunAlike related (Lowering.check first >>= next)
      (Lowering.check second >>= next') := by
  cases first with
  | error fault =>
      cases second with
      | error fault' =>
          cases same
          exact throw fault
      | ok value' =>
          cases same
  | ok value =>
      cases second with
      | error fault' =>
          cases same
      | ok value' =>
          exact after value value' (Except.ok.inj same)

end RunAlike

/-! ## Symbols and definitions -/

/-- A parameter is hoisted by its declaration alone. -/
theorem hoistParameter_alike (target : Target) {symbol symbol' : Parameter}
    (same : symbol.canonical = symbol'.canonical) :
    RunAlike related (hoistParameter target symbol)
      (hoistParameter target symbol') := by
  have declared (parameter : Parameter) :
      hoistParameter target parameter =
        hoistParameter target parameter.canonical := rfl
  rw [declared symbol, declared symbol', same]
  generalize symbol'.canonical = parameter
  unfold hoistParameter
  split
  · exact .throw _
  · refine .bind (.check _) fun _ => .bind (.check _) fun _ => ?_
    refine .get_then fun progress progress' alike => ?_
    rw [alike.symbols]
    refine .bind (.check _) fun ⟨isNew, table⟩ => ?_
    cases isNew with
    | false =>
        exact .pure ()
    | true =>
        have extended :
            Progress.Alike related { progress with symbols := table }
              { progress' with symbols := table } :=
          ⟨rfl, alike.definitions, alike.events⟩
        exact .set (extended.record _)

theorem Correspondence.name (corresponds : Correspondence related)
    {first second : ShaderFunction} (same : related first second) :
    first.name = second.name := by
  have bare := congrArg ShaderFunction.name (corresponds.bare same)
  simpa using bare

theorem Correspondence.parameters (corresponds : Correspondence related)
    {first second : ShaderFunction} (same : related first second) :
    first.parameters.map Parameter.canonical =
      second.parameters.map Parameter.canonical := by
  have bare := congrArg ShaderFunction.parameters (corresponds.bare same)
  simpa [Relabeling.bare] using bare

theorem Correspondence.body (corresponds : Correspondence related)
    {first second : ShaderFunction} (same : related first second) :
    relabeledBody .bare first.body = relabeledBody .bare second.body := by
  have bare := congrArg ShaderFunction.body (corresponds.bare same)
  simpa using bare

/-- A name is defined in both runs or in neither, and by related functions. -/
theorem Correspondence.definition? (corresponds : Correspondence related)
    {first second : Progress} (alike : first.Alike related second)
    (name : String) :
    Option.Rel (Definition.Alike related) (first.definition? name)
      (second.definition? name) := by
  have definitions := alike.definitions
  unfold Progress.definition?
  generalize first.definitions = known at definitions ⊢
  generalize second.definitions = known' at definitions ⊢
  induction definitions with
  | nil =>
      exact .none
  | @cons known known' rest rest' same _ inductionHypothesis =>
      have names := corresponds.name same.function
      rw [List.find?_cons, List.find?_cons, names]
      by_cases found : known'.function.name = name
      · simp only [found, BEq.rfl]
        exact .some same
      · simp only [beq_eq_false_iff_ne.mpr found]
        exact inductionHypothesis

private theorem definitionTexts_eq {known known' : List Definition}
    (alike : List.Forall₂ (Definition.Alike related) known known') :
    known.map Definition.text = known'.map Definition.text := by
  induction alike with
  | nil =>
      rfl
  | cons head _ inductionHypothesis =>
      rw [List.map_cons, List.map_cons, head.text, inductionHypothesis]

private theorem Correspondence.definitionNames_eq
    (corresponds : Correspondence related) {known known' : List Definition}
    (alike : List.Forall₂ (Definition.Alike related) known known') :
    (known.map fun definition => definition.function.name) =
      known'.map fun definition => definition.function.name := by
  induction alike with
  | nil =>
      rfl
  | cons head _ inductionHypothesis =>
      rw [List.map_cons, List.map_cons, corresponds.name head.function,
        inductionHypothesis]

theorem Correspondence.addDefinition_alike
    (corresponds : Correspondence related) {first second : Definition}
    (same : first.Alike related second) :
    RunAlike related (addDefinition first) (addDefinition second) := by
  have names := corresponds.name same.function
  have parameters := corresponds.parameters same.function
  have arity :
      first.function.parameters.length =
        second.function.parameters.length := by
    simpa using congrArg List.length parameters
  unfold addDefinition
  refine .get_then fun progress progress' alike => ?_
  have known :
      (progress.definition? first.function.name).isSome =
        (progress'.definition? second.function.name).isSome := by
    have related := corresponds.definition? alike second.function.name
    rw [names]
    generalize progress.definition? second.function.name = found
      at related ⊢
    generalize progress'.definition? second.function.name = found'
      at related ⊢
    cases related <;> rfl
  dsimp only
  rw [known, names, arity]
  split
  · exact .throw _
  · have extended :
        Progress.Alike related
          { progress with definitions := progress.definitions ++ [first] }
          { progress' with
              definitions := progress'.definitions ++ [second] } := by
      refine ⟨alike.symbols, ?_, alike.events⟩
      exact List.rel_append alike.definitions (.cons same .nil)
    exact .set (extended.record _)

/-! ## Visits -/

/-- Visits of two runs that ask for the same. -/
structure Visit.Alike
    (related : ShaderFunction → ShaderFunction → Prop) (target : Target)
    (locals locals' : Locals) (visit visit' : Visit) : Prop where
  check : visit.check target locals = visit'.check target locals'
  stageUse :
    (visit.stageUse? locals).map Parameter.canonical =
      (visit'.stageUse? locals').map Parameter.canonical
  callee : Option.Rel related visit.callee? visit'.callee?

/-- Visits without handles that agree, with related callees. -/
theorem Visit.Alike.of_bare {target : Target} {locals locals' : Locals}
    (sameLocals : locals.bare = locals'.bare) {visit visit' : Visit}
    (same : visit.bare = visit'.bare)
    (callee : Option.Rel related visit.callee? visit'.callee?) :
    visit.Alike related target locals locals' visit' := by
  refine ⟨?_, ?_, callee⟩
  · rw [← Visit.check_bare, same, sameLocals, Visit.check_bare]
  · rw [← Visit.stageUse?_bare, same, sameLocals, Visit.stageUse?_bare]

private theorem visitsAlike_of_bare {target : Target}
    {locals locals' : Locals} (sameLocals : locals.bare = locals'.bare) :
    ∀ {visits visits' : List Visit},
      visits.map Visit.bare = visits'.map Visit.bare →
      List.Forall₂ related (visits.filterMap Visit.callee?)
        (visits'.filterMap Visit.callee?) →
      List.Forall₂ (Visit.Alike related target locals locals') visits
        visits'
  | [], [], _, _ => .nil
  | [], _ :: _, same, _ => by
      simp at same
  | _ :: _, [], same, _ => by
      simp at same
  | visit :: rest, visit' :: rest', same, callees => by
      obtain ⟨head, tail⟩ := List.cons.inj same
      have calls :
          visit.callee?.map ShaderFunction.bare =
            visit'.callee?.map ShaderFunction.bare := by
        rw [← Visit.callee?_relabeled, ← Visit.callee?_relabeled]
        exact congrArg Visit.callee? head
      -- Both visits call a function or neither does, so the first callees of
      -- the lists are those of the visits or none is.
      cases called : visit.callee? with
      | none =>
          have called' : visit'.callee? = none := by
            simpa [called] using calls.symm
          rw [List.filterMap_cons_none called,
            List.filterMap_cons_none called'] at callees
          have neither : Option.Rel related visit.callee? visit'.callee? := by
            rw [called, called']
            exact .none
          exact .cons (.of_bare sameLocals head neither)
            (visitsAlike_of_bare sameLocals tail callees)
      | some function =>
          obtain ⟨function', called', _⟩ :
              ∃ function', visit'.callee? = some function' ∧
                function'.bare = function.bare := by
            simpa [called] using calls.symm
          rw [List.filterMap_cons_some called,
            List.filterMap_cons_some called'] at callees
          obtain ⟨first, others⟩ := List.forall₂_cons.mp callees
          have both : Option.Rel related visit.callee? visit'.callee? := by
            rw [called, called']
            exact .some first
          exact .cons (.of_bare sameLocals head both)
            (visitsAlike_of_bare sameLocals tail others)

/-- The visits of bodies that differ in handles only. -/
theorem bodyVisits_alike {target : Target} {locals locals' : Locals}
    (sameLocals : locals.bare = locals'.bare) {body body' : List Operation}
    (same : relabeledBody .bare body = relabeledBody .bare body')
    (callees : List.Forall₂ related (bodyCallees body) (bodyCallees body')) :
    List.Forall₂ (Visit.Alike related target locals locals')
      (bodyVisits 1 body) (bodyVisits 1 body') := by
  refine visitsAlike_of_bare sameLocals ?_ callees
  have visits := congrArg (bodyVisits 1) same
  rwa [bodyVisits_relabeled, bodyVisits_relabeled] at visits

/-- A function is hoisted like every function that is related to it. -/
def HoistsAlike (related : ShaderFunction → ShaderFunction → Prop)
    (target : Target) (function : ShaderFunction) : Prop :=
  ∀ function', related function function' →
    RunAlike related (hoistFunction target function)
      (hoistFunction target function')

private theorem perform_alike {target : Target} {locals locals' : Locals}
    {visit visit' : Visit}
    (alike : visit.Alike related target locals locals' visit')
    (hoists : ∀ function, visit.callee? = some function →
      HoistsAlike related target function) :
    RunAlike related (visit.perform target locals)
      (visit'.perform target locals') := by
  have checked := alike.check
  have used := alike.stageUse
  have called := alike.callee
  unfold Visit.perform
  rw [checked]
  refine .bind (.check _) fun _ => ?_
  generalize visit'.stageUse? locals' = use' at used ⊢
  generalize visit.stageUse? locals = use at used ⊢
  cases use with
  | some symbol =>
      cases use' with
      | some symbol' =>
          exact hoistParameter_alike target (Option.some.inj used)
      | none =>
          cases used
  | none =>
      cases use' with
      | some symbol' =>
          cases used
      | none =>
          generalize visit'.callee? = callee' at called ⊢
          generalize visit.callee? = callee at called hoists ⊢
          cases called with
          | none =>
              exact .pure ()
          | some same =>
              exact hoists _ rfl _ same

theorem performAll_alike {target : Target} {locals locals' : Locals}
    {visits visits' : List Visit}
    (alike : List.Forall₂ (Visit.Alike related target locals locals') visits
      visits')
    (hoists : CalleesSatisfy (HoistsAlike related target) visits) :
    RunAlike related (performAll target locals visits)
      (performAll target locals' visits') := by
  induction alike with
  | nil =>
      exact .pure ()
  | cons head _ inductionHypothesis =>
      rw [performAll_cons, performAll_cons]
      refine .bind (perform_alike head fun function called => ?_) fun _ => ?_
      · exact hoists.head called
      · exact inductionHypothesis hoists.tail

/-! ## Functions -/

/-- Related functions are hoisted alike. -/
theorem Correspondence.hoistsAlike (corresponds : Correspondence related)
    (target : Target) (function : ShaderFunction) :
    HoistsAlike related target function := by
  induction function using ShaderFunction.callee_induction with
  | step function inductionHypothesis =>
      intro function' same
      have bare := corresponds.bare same
      have names := corresponds.name same
      rw [hoistFunction_eq, hoistFunction_eq]
      refine .get_then fun progress progress' alike => ?_
      have known := corresponds.definition? alike function'.name
      rw [names]
      generalize progress.definition? function'.name = definition at known ⊢
      generalize progress'.definition? function'.name = definition'
        at known ⊢
      cases known with
      | @some definition definition' known =>
          have stands := corresponds.standsFor known.function same
          have accepted :
              (definition.function.handle == function.handle ||
                  definition.function.equals function) =
                (definition'.function.handle == function'.handle ||
                  definition'.function.equals function') := by
            rw [Bool.eq_iff_iff]
            simpa [ShaderFunction.StandsFor] using stands
          dsimp only
          rw [accepted]
          split
          · exact .pure ()
          · exact .throw _
      | none =>
          have collected :
              (Locals.ofBody function.parameters function.body).map
                  Locals.bare =
                (Locals.ofBody function'.parameters function'.body).map
                  Locals.bare := by
            rw [← Locals.ofBody_bare, ← Locals.ofBody_bare,
              corresponds.parameters same, corresponds.body same]
          have signed :
              function.signature target = function'.signature target := by
            rw [← ShaderFunction.signature_bare, bare,
              ShaderFunction.signature_bare]
          have written :
              function.definitionText target =
                function'.definitionText target := by
            rw [← ShaderFunction.definitionText_bare, bare,
              ShaderFunction.definitionText_bare]
          refine .check_then collected fun locals locals' sameLocals => ?_
          rw [signed]
          refine .bind (.check _) fun _ => .bind ?_ fun _ => ?_
          · exact performAll_alike
              (bodyVisits_alike sameLocals (corresponds.body same)
                (corresponds.callees same))
              (.of_bodyCallees inductionHypothesis)
          · exact corresponds.addDefinition_alike ⟨same, written⟩

/-! ## Whole shaders -/

private theorem lowerShader_alike (corresponds : Correspondence related)
    {first second : Shader} (same : first.bare = second.bare)
    (callees : List.Forall₂ related (bodyCallees first.operations)
      (bodyCallees second.operations)) (dialect : Dialect) :
    RunAlike related (lowerShader dialect first)
      (lowerShader dialect second) := by
  obtain ⟨stage, precision, operations⟩ := first
  obtain ⟨stage', precision', operations'⟩ := second
  obtain ⟨rfl, rfl, bodies⟩ :
      stage = stage' ∧ precision = precision' ∧
        relabeledBody .bare operations =
          relabeledBody .bare operations' := by
    simpa [Shader.bare, Shader.relabeled] using same
  have collected :
      (Locals.ofBody [] operations).map Locals.bare =
        (Locals.ofBody [] operations').map Locals.bare := by
    rw [← Locals.ofBody_bare, ← Locals.ofBody_bare, bodies]
  have written (target : Target) :
      bodyText target 1 operations = bodyText target 1 operations' := by
    rw [← bodyText_bare, bodies, bodyText_bare]
  unfold lowerShader
  refine .check_then collected fun locals locals' sameLocals => ?_
  rw [lowerBody_eq, lowerBody_eq, written]
  refine .bind (.bind ?_ fun _ => .pure _) fun body => ?_
  · refine performAll_alike (bodyVisits_alike sameLocals bodies callees) ?_
    exact .of_bodyCallees fun function _ =>
      corresponds.hoistsAlike _ function
  · refine .bind (.check _) fun precisionText => ?_
    refine .get_then fun progress progress' alike => ?_
    have texts := definitionTexts_eq alike.definitions
    have names := corresponds.definitionNames_eq alike.definitions
    dsimp only
    rw [alike.symbols, texts, names]
    refine .bind (.check _) fun declarations => ?_
    exact .bind (.set (alike.record _)) fun _ => .pure _

/-- Shaders that differ in handles only and whose callees correspond have one
outcome, with one list of events. -/
theorem lowerWithEvents_eq_of_correspondence
    (corresponds : Correspondence related) {first second : Shader}
    (same : first.bare = second.bare)
    (callees : List.Forall₂ related (bodyCallees first.operations)
      (bodyCallees second.operations)) (dialect : Dialect) :
    lowerWithEvents dialect first = lowerWithEvents dialect second := by
  have ends :=
    lowerShader_alike corresponds same callees dialect .start .start .start
  unfold lowerWithEvents
  generalize (lowerShader dialect first).run .start = end₁ at ends ⊢
  generalize (lowerShader dialect second).run .start = end₂ at ends ⊢
  cases ends with
  | ok alike =>
      simp only [alike.events]
  | error alike =>
      simp only [alike.events]

end Runs

end Shaderwright
