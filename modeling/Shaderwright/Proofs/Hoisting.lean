import Mathlib.Logic.Relation
import Shaderwright.Proofs.SourceText

/-!
The order of the function definitions. A definition is added behind all that
its body calls (`CalleesFirst`), so the place of a name in the list is a rank
that falls along every call.
-/

namespace Shaderwright

/-! ## Callees first -/

/-- Lists of definitions in which every callee of a function is defined ahead
of it. -/
inductive CalleesFirst : List Definition → Prop
  | nil : CalleesFirst []
  | snoc {definitions : List Definition} {definition : Definition}
      (earlier : CalleesFirst definitions)
      (callees : ∀ callee ∈ bodyCallees definition.function.body,
        ∃ known ∈ definitions, known.function.name = callee.name) :
      CalleesFirst (definitions ++ [definition])

/-- A walk keeps callees first: all that a body calls is defined when the walk
over the body ends. -/
theorem Performs.calleesFirst {target : Target} {locals : Locals}
    {visits : List Visit} {start finish : Progress}
    (walk : Performs target locals visits start finish)
    (first : CalleesFirst start.definitions) :
    CalleesFirst finish.definitions := by
  refine walk.preserves
    (fun progress => CalleesFirst progress.definitions) ?_ ?_ first
  · intro progress symbol isNew table _ _ earlier
    simpa using earlier
  · intro function inner before after _ _ body _ earlier
    rw [Progress.definitions_withDefinition]
    refine .snoc earlier ?_
    intro callee called
    obtain ⟨visit, member, calls⟩ := mem_bodyCallees_iff.mp called
    obtain ⟨known, inList, named, _⟩ :=
      (body.served visit member).function callee calls
    exact ⟨known, inList, named⟩

/-- The names of definitions, in their order. -/
def definitionNames (definitions : List Definition) : List String :=
  definitions.map fun known => known.function.name

/-- Where names are distinct and callees first, a callee has a smaller place
in the list than its caller. -/
theorem CalleesFirst.idxOf_lt {definitions : List Definition}
    (first : CalleesFirst definitions)
    (distinct : (definitionNames definitions).Nodup) :
    ∀ definition ∈ definitions,
      ∀ callee ∈ bodyCallees definition.function.body,
        (definitionNames definitions).idxOf callee.name <
          (definitionNames definitions).idxOf definition.function.name := by
  induction first with
  | nil =>
      intro definition impossible
      cases impossible
  | @snoc definitions added earlier callees inductionHypothesis =>
      have names :
          definitionNames (definitions ++ [added]) =
            definitionNames definitions ++ [added.function.name] := by
        simp [definitionNames]
      rw [names] at distinct ⊢
      obtain ⟨earlierDistinct, _, apart⟩ := List.nodup_append.mp distinct
      have isNew :
          added.function.name ∉ definitionNames definitions := fun old =>
        apart _ old _ (List.mem_singleton_self _) rfl
      intro definition member callee called
      rcases List.mem_append.mp member with old | new
      · have smaller :=
          inductionHypothesis earlierDistinct definition old callee called
        have callerKnown :
            definition.function.name ∈ definitionNames definitions :=
          List.mem_map.mpr ⟨definition, old, rfl⟩
        have calleeKnown : callee.name ∈ definitionNames definitions :=
          List.idxOf_lt_length_iff.mp <|
            Nat.lt_trans smaller (List.idxOf_lt_length_iff.mpr callerKnown)
        rw [List.idxOf_append_of_mem calleeKnown,
          List.idxOf_append_of_mem callerKnown]
        exact smaller
      · have same : definition = added := List.mem_singleton.mp new
        subst same
        obtain ⟨known, inList, named⟩ := callees callee called
        have calleeKnown : callee.name ∈ definitionNames definitions :=
          List.mem_map.mpr ⟨known, inList, named⟩
        rw [List.idxOf_append_of_mem calleeKnown,
          List.idxOf_append_of_notMem isNew]
        have bounded := List.idxOf_lt_length_iff.mpr calleeKnown
        omega

/-! ## Calls by name -/

/-- One name calls another where functions of these names do. -/
def Shader.CallsByName (shader : Shader) (caller callee : String) : Prop :=
  ∃ function, CalledFrom shader.operations function ∧
    function.name = caller ∧
    ∃ called ∈ bodyCallees function.body, called.name = callee

section Order

variable {dialect : Dialect} {shader : Shader} {locals : Locals}
  {finish : Progress}

/-- Every call, also of a function that an equal one stands for, leads to a
smaller place in the list. -/
theorem Shader.Walk.idxOf_lt (walk : shader.Walk dialect locals finish)
    (agree : shader.HandlesAgree) {caller callee : ShaderFunction}
    (reached : CalledFrom shader.operations caller)
    (called : callee ∈ bodyCallees caller.body) :
    (definitionNames finish.definitions).idxOf callee.name <
      (definitionNames finish.definitions).idxOf caller.name := by
  obtain ⟨definition, member, named, same⟩ := walk.covers agree reached
  have calledDefined := walk.calledFrom_of_mem member
  obtain ⟨twin, calledTwin, sameTwin⟩ :=
    agree.callee_of_standsFor calledDefined reached same called
  have twinNamed : twin.name = callee.name :=
    ShaderFunction.name_eq_of_canonical_eq <|
      agree.canonical_eq_of_standsFor (.through calledDefined calledTwin)
        (.through reached called) sameTwin
  rw [← named, ← twinNamed]
  exact (walk.performs.calleesFirst .nil).idxOf_lt
    walk.distinctDefinitions definition member twin calledTwin

end Order

/-! ## The functions of a lowered shader -/

/-- The functions of a lowered shader are those that are called from its entry
point, each name once and with one definition, callees first. So no name calls
itself, be it through others. -/
theorem lower_functions_calleesFirst {dialect : Dialect} {shader : Shader}
    {compiled : CompiledShader} (agree : shader.HandlesAgree)
    (lowered : lower dialect shader = .ok compiled) :
    compiled.functions.Nodup ∧
      (∀ name, name ∈ compiled.functions ↔
        ∃ function, CalledFrom shader.operations function ∧
          function.name = name) ∧
      (∃ functions,
        compiled.functions = functions.map ShaderFunction.name ∧
          (∀ function ∈ functions,
            CalledFrom shader.operations function) ∧
          compiled.Defines dialect shader functions) ∧
      (∀ caller, CalledFrom shader.operations caller →
        ∀ callee ∈ bodyCallees caller.body,
          compiled.functions.idxOf callee.name <
            compiled.functions.idxOf caller.name) ∧
      ∀ name, ¬ Relation.TransGen shader.CallsByName name name := by
  obtain ⟨locals, finish, walk, _, functions, defines⟩ :=
    walk_of_lower lowered
  have ordered :
      ∀ caller, CalledFrom shader.operations caller →
        ∀ callee ∈ bodyCallees caller.body,
          compiled.functions.idxOf callee.name <
            compiled.functions.idxOf caller.name := by
    intro caller reached callee called
    rw [functions]
    exact walk.idxOf_lt agree reached called
  have ranked :
      ∀ caller callee,
        Relation.TransGen shader.CallsByName caller callee →
          compiled.functions.idxOf callee <
            compiled.functions.idxOf caller := by
    intro caller callee path
    induction path with
    | single call =>
        obtain ⟨function, reached, rfl, called, member, rfl⟩ := call
        exact ordered function reached called member
    | tail _ call inductionHypothesis =>
        obtain ⟨function, reached, rfl, called, member, rfl⟩ := call
        exact Nat.lt_trans (ordered function reached called member)
          inductionHypothesis
  refine ⟨?_, ?_, ⟨finish.definitions.map Definition.function, ?_, ?_,
    defines⟩, ordered, ?_⟩
  · rw [functions]
    exact walk.distinctDefinitions
  · intro name
    rw [functions, List.mem_map]
    constructor
    · rintro ⟨definition, member, rfl⟩
      exact ⟨definition.function, walk.calledFrom_of_mem member, rfl⟩
    · rintro ⟨function, called, rfl⟩
      obtain ⟨definition, member, named, _⟩ := walk.covers agree called
      exact ⟨definition, member, named⟩
  · rw [functions, List.map_map]
    rfl
  · intro function member
    obtain ⟨definition, inList, rfl⟩ := List.mem_map.mp member
    exact walk.calledFrom_of_mem inList
  · intro name cycle
    exact Nat.lt_irrefl _ (ranked name name cycle)

theorem layeredShader_calleesFirst :
    ∃ compiled, lower .glslEs100 layeredShader = .ok compiled ∧
      layeredShader.HandlesAgree ∧
      compiled.functions.idxOf "tone" <
        compiled.functions.idxOf "shade" := by
  obtain ⟨compiled, lowered⟩ := layeredShader_lowers
  obtain ⟨_, _, _, ordered, _⟩ :=
    lower_functions_calleesFirst layeredShader_handlesAgree lowered
  have called : CalledFrom layeredShader.operations shadeFunction :=
    .direct (List.mem_cons_self ..)
  exact ⟨compiled, lowered, layeredShader_handlesAgree,
    ordered shadeFunction called (gainFunction 1) (List.mem_cons_self ..)⟩

end Shaderwright
