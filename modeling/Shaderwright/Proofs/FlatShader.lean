import Shaderwright.Proofs.Acceptance
import Shaderwright.Proofs.DialectChoice
import Shaderwright.Proofs.Symbols

/-!
Flat shaders: their functions call no others, and no two calls are of one name.
Every call of an acceptable flat shader defines its function, so the functions
of the source are those called from the entry point, in the order of the calls
(`Shader.Flat.exists_lowered`).
-/

namespace Shaderwright

/-- The functions of a shader call no others, and no two of the calls are of one
name. -/
structure Shader.Flat (shader : Shader) : Prop where
  leaves : ∀ function ∈ bodyCallees shader.operations,
    bodyCallees function.body = []
  distinct :
    ((bodyCallees shader.operations).map ShaderFunction.name).Nodup

/-! ## Walks over calls of leaves -/

section Walks

variable {target : Target} {locals : Locals} {visits : List Visit}
  {start finish : Progress}

/-- A walk without calls defines nothing. -/
theorem Performs.definitions_eq
    (walk : Performs target locals visits start finish)
    (noCalls : visits.filterMap Visit.callee? = []) :
    finish.definitions = start.definitions := by
  induction walk with
  | done =>
      rfl
  | plain _ _ noFunction _ inductionHypothesis =>
      rw [List.filterMap_cons_none noFunction] at noCalls
      exact inductionHypothesis noCalls
  | @symbol _ visit _ _ _ symbol _ _ _ used _ _ _ inductionHypothesis =>
      have noFunction : visit.callee? = none := by
        rw [(Visit.stageUse?_eq_some_iff.mp used).1]
        rfl
      rw [List.filterMap_cons_none noFunction] at noCalls
      exact (inductionHypothesis noCalls).trans
        (Progress.definitions_withSymbol ..)
  | known _ called _ _ _ _ =>
      rw [List.filterMap_cons_some called] at noCalls
      cases noCalls
  | defined _ called _ _ _ _ _ _ _ _ =>
      rw [List.filterMap_cons_some called] at noCalls
      cases noCalls

/-- Calls of leaves with names of their own are defined one after the other. -/
theorem Performs.definitions_of_leaves
    (walk : Performs target locals visits start finish)
    (leaves : ∀ function ∈ visits.filterMap Visit.callee?,
      bodyCallees function.body = [])
    (distinct :
      ((start.definitions.map Definition.function ++
        visits.filterMap Visit.callee?).map ShaderFunction.name).Nodup) :
    finish.definitions.map Definition.function =
      start.definitions.map Definition.function ++
        visits.filterMap Visit.callee? := by
  induction walk with
  | done =>
      simp
  | plain _ _ noFunction _ inductionHypothesis =>
      rw [List.filterMap_cons_none noFunction] at leaves distinct ⊢
      exact inductionHypothesis leaves distinct
  | @symbol _ visit _ _ _ symbol _ _ _ used _ _ _ inductionHypothesis =>
      have noFunction : visit.callee? = none := by
        rw [(Visit.stageUse?_eq_some_iff.mp used).1]
        rfl
      rw [List.filterMap_cons_none noFunction] at leaves distinct ⊢
      rw [Progress.definitions_withSymbol] at inductionHypothesis
      exact inductionHypothesis leaves distinct
  | @known _ _ _ start _ function definition _ called found _ _ _ =>
      rw [List.filterMap_cons_some called] at distinct
      obtain ⟨member, named⟩ := Progress.definition?_some found
      rw [List.map_append, List.nodup_append] at distinct
      have old : function.name ∈
          (start.definitions.map Definition.function).map
            ShaderFunction.name := by
        rw [← named]
        exact List.mem_map_of_mem (List.mem_map_of_mem member)
      exact absurd rfl
        (distinct.2.2 _ old _ (List.mem_map_of_mem List.mem_cons_self))
  | @defined _ _ _ rest start middle _ function _ called _ _ _ body _ _ _
      laterHypothesis =>
      rw [List.filterMap_cons_some called] at leaves distinct ⊢
      rw [List.forall_mem_cons] at leaves
      have oneMore :
          (middle.withDefinition (function.definition target)).definitions.map
              Definition.function =
            start.definitions.map Definition.function ++ [function] := by
        rw [Progress.definitions_withDefinition,
          body.definitions_eq leaves.1, List.map_append]
        rfl
      rw [oneMore, List.append_assoc] at laterHypothesis
      exact laterHypothesis leaves.2 distinct

end Walks

/-! ## Lists of parameters that agree -/

theorem DeclaredAlike.of_nodup {declarations : List Parameter}
    (distinct : (declarations.map Parameter.name).Nodup) :
    DeclaredAlike declarations := by
  intro first member second member' named
  rw [List.inj_on_of_nodup_map distinct member member' named]

theorem DeclaredAlike.mono {declarations fewer : List Parameter}
    (alike : DeclaredAlike declarations) (subset : fewer ⊆ declarations) :
    DeclaredAlike fewer :=
  fun first member second member' =>
    alike first (subset member) second (subset member')

/-- Where parameters of one name agree, each of them is a first occurrence. -/
theorem DeclaredAlike.mem_firstOccurrences {parameters : List Parameter}
    (alike : DeclaredAlike parameters) {parameter : Parameter}
    (member : parameter ∈ parameters) :
    parameter.symbol ∈
      firstOccurrences (parameters.map Parameter.symbol) := by
  have named : parameter.symbol.name ∈
      (firstOccurrences (parameters.map Parameter.symbol)).map
        Symbol.name :=
    name_mem_firstOccurrences_iff.mpr
      (List.mem_map_of_mem (List.mem_map_of_mem member))
  obtain ⟨symbol, first, sameName⟩ := List.mem_map.mp named
  obtain ⟨other, otherMember, rfl⟩ :=
    List.mem_map.mp ((firstOccurrences_sublist _).subset first)
  rw [← alike other otherMember parameter member sameName]
  exact first

/-- A use of a parameter of the stage is met by the naive walk. -/
theorem Scope.StageUse.mem_stageParameters {scope : Scope}
    {symbol : Parameter} (used : scope.StageUse symbol) :
    symbol ∈
      scope.visits.flatMap (Visit.stageParameters scope.locals) := by
  obtain ⟨met, free⟩ := used
  refine List.mem_flatMap.mpr ⟨.parameter symbol, met, ?_⟩
  rw [Visit.stageParameters, Operand.stageParameters,
    if_neg (any_name_eq_true_iff.not_left.mpr free)]
  exact List.mem_singleton_self symbol

/-! ## Lowered flat shaders -/

namespace Shader.Flat

variable {dialect : Dialect} {shader : Shader}

theorem calledFrom_iff (flat : shader.Flat) {function : ShaderFunction} :
    CalledFrom shader.operations function ↔
      function ∈ bodyCallees shader.operations := by
  constructor
  · intro called
    induction called with
    | direct called =>
        exact called
    | through _ called inductionHypothesis =>
        rw [flat.leaves _ inductionHypothesis] at called
        cases called
  · exact CalledFrom.direct

/-- Functions that are given handles of their own agree. -/
theorem handlesAgree (flat : shader.Flat)
    (handles :
      ((bodyCallees shader.operations).map ShaderFunction.handle).Nodup) :
    shader.HandlesAgree := by
  intro first calledFirst second calledSecond same
  rw [flat.calledFrom_iff] at calledFirst calledSecond
  exact List.inj_on_of_nodup_map handles calledFirst calledSecond same

/-- Functions of one name are one function. -/
theorem functionsAlike (flat : shader.Flat) {first second : ShaderFunction}
    (calledFirst : CalledFrom shader.operations first)
    (calledSecond : CalledFrom shader.operations second)
    (named : first.name = second.name) : first.StandsFor second := by
  rw [flat.calledFrom_iff] at calledFirst calledSecond
  rw [List.inj_on_of_nodup_map flat.distinct calledFirst calledSecond named]
  exact Or.inl rfl

/-- The uses of a flat shader are those of its entry point, if its functions
use no parameters of the stage. -/
theorem mem_of_stageUse (flat : shader.Flat)
    (closed : ∀ function ∈ bodyCallees shader.operations,
      function.stageParameters = [])
    {symbol : Parameter} (used : shader.StageUse symbol) :
    symbol ∈ shader.stageParameters := by
  obtain ⟨scope, inShader, usedInScope⟩ := used
  have met := usedInScope.mem_stageParameters
  cases inShader with
  | entry =>
      rw [Shader.stageParameters, bodyStageParameters_eq _ 1]
      exact met
  | @callee function called =>
      rw [← function.stageParameters_eq,
        closed function (flat.calledFrom_iff.mp called)] at met
      cases met

/-- A flat shader is acceptable to a dialect that has every keyword, if its
bodies are and its uses of the stage agree. -/
theorem acceptable (flat : shader.Flat) (complete : dialect.Complete)
    (entry : shader.entry.Acceptable (shader.target dialect))
    (functions : ∀ function ∈ bodyCallees shader.operations,
      function.scope.Acceptable (shader.target dialect))
    (closed : ∀ function ∈ bodyCallees shader.operations,
      function.stageParameters = [])
    (alike : DeclaredAlike shader.stageParameters)
    (arrays : ∀ symbol ∈ shader.stageParameters,
      symbol.arrayLength = 0 ∨ symbol.qualifier = .constant) :
    shader.Acceptable dialect where
  scopes := by
    intro scope inShader
    cases inShader with
    | entry =>
        exact entry
    | callee called =>
        exact functions _ (flat.calledFrom_iff.mp called)
  stageUsesAlike := by
    intro first usedFirst second usedSecond
    exact alike first (flat.mem_of_stageUse closed usedFirst) second
      (flat.mem_of_stageUse closed usedSecond)
  stageUsesDeclarable := by
    intro symbol used
    exact ⟨arrays symbol (flat.mem_of_stageUse closed used),
      complete.types symbol.type, complete.qualifiers symbol.qualifier⟩
  signatures := by
    intro function _
    exact ⟨fun type _ => complete.types type,
      fun symbol _ => complete.types symbol.type⟩
  functionsAlike := by
    intro first calledFirst second calledSecond
    exact flat.functionsAlike calledFirst calledSecond
  precision := by
    intro precision _
    exact complete.precisions precision

/-- An acceptable flat shader is lowered. Its functions are those called from
the entry point, and its symbols the first occurrences of the naive walk. -/
theorem exists_lowered (flat : shader.Flat)
    (acceptable : shader.Acceptable dialect)
    (agree : shader.HandlesAgree) :
    ∃ compiled, lower dialect shader = .ok compiled ∧
      compiled.symbols =
        firstOccurrences (shader.stageParameters.map Parameter.symbol) ∧
      compiled.functions =
        (bodyCallees shader.operations).map ShaderFunction.name ∧
      compiled.Defines dialect shader (bodyCallees shader.operations) := by
  obtain ⟨locals, finish, walk⟩ := acceptable.exists_walk agree
  have precise : ∃ text,
      (shader.target dialect).precisionText shader.precision = .ok text :=
    precisionText_ok_iff.mpr acceptable.precision
  obtain ⟨precision, precise⟩ := precise
  have declarable : ∀ symbol ∈ finish.symbols.symbols,
      ∃ text, (shader.target dialect).declarationText symbol =
        .ok text := by
    intro symbol member
    obtain ⟨_, declares, rfl⟩ :=
      walk.performs.symbolsDeclarable
        (fun _ impossible => absurd impossible List.not_mem_nil) symbol
        member
    exact declares.declarationText
  obtain ⟨declarations, declared⟩ := mapM_ok_iff.mpr declarable
  have lowered := lower_ok_iff.mpr ⟨locals, finish, precision, declarations,
    walk.collected, walk.performs, precise, declared, rfl⟩
  refine ⟨_, lowered, ?_⟩
  obtain ⟨locals, finish, walk, symbols, functions, defines⟩ :=
    walk_of_lower lowered
  have defined :
      finish.definitions.map Definition.function =
        bodyCallees shader.operations :=
    walk.performs.definitions_of_leaves flat.leaves flat.distinct
  have startComplete : Progress.start.Complete shader :=
    ⟨fun _ impossible => absurd impossible List.not_mem_nil,
      fun _ impossible => absurd impossible List.not_mem_nil⟩
  obtain ⟨walked, _⟩ :=
    walk.performs.symbols_eq agree shader.entry.locals
      (Locals.collects_ofDeclarations walk.collected)
      (.of_bodyCallees fun function below => .direct below)
      List.nodup_nil startComplete
  refine ⟨?_, ?_, ?_⟩
  · rw [symbols, walked, Shader.stageParameters, bodyStageParameters_eq _ 1]
    rfl
  · rw [functions, ← defined, List.map_map]
    rfl
  · rw [← defined]
    exact defines

end Shader.Flat

end Shaderwright
