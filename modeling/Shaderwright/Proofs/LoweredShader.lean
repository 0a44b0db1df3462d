import Shaderwright.Proofs.EqualFunctions

/-!
What the walk over a whole shader has served when it succeeds. Every function
called from the entry point is covered by a definition, also where an equal one
was defined in its place, and every body of the shader agrees with a body that
the walk has served.
-/

namespace Shaderwright

/-- A successful walk over the entry point of a shader. -/
structure Shader.Walk (dialect : Dialect) (shader : Shader)
    (locals : Locals) (finish : Progress) : Prop where
  collected : Locals.ofBody [] shader.operations = .ok locals
  performs : Performs (shader.target dialect) locals
    (bodyVisits 1 shader.operations) .start finish

/-- A body whose visits have all been served under its local variables. -/
def Scope.Served (target : Target) (progress : Progress) (scope : Scope) :
    Prop :=
  ∃ inner, Locals.ofDeclarations scope.locals = .ok inner ∧
    ∀ visit ∈ scope.visits, visit.Served target inner progress

theorem ShaderFunction.Settled.scope_served {target : Target}
    {progress : Progress} {function : ShaderFunction}
    (settled : function.Settled target progress) :
    function.scope.Served target progress :=
  settled.2

/-! ## Callees and uses in a scope -/

theorem mem_bodyCallees_iff {body : List Operation}
    {function : ShaderFunction} :
    function ∈ bodyCallees body ↔
      ∃ visit ∈ bodyVisits 1 body, visit.callee? = some function :=
  List.mem_filterMap

theorem Visit.stageUse?_eq_some_iff {locals : Locals} {visit : Visit}
    {symbol : Parameter} :
    visit.stageUse? locals = some symbol ↔
      visit = .parameter symbol ∧ locals.find? symbol.name = none := by
  cases visit with
  | parameter other =>
      cases found : locals.find? other.name with
      | none =>
          simp only [Visit.stageUse?, found]
          constructor
          · intro used
            cases used
            exact ⟨rfl, found⟩
          · rintro ⟨same, _⟩
            cases same
            rfl
      | some known =>
          simp only [Visit.stageUse?, found]
          constructor
          · intro impossible
            cases impossible
          · rintro ⟨same, missing⟩
            cases same
            rw [found] at missing
            cases missing
  | _ =>
      simp [Visit.stageUse?]

theorem Scope.stageUse_iff {scope : Scope} {inner : Locals}
    (collects : inner.Collects scope.locals) {symbol : Parameter} :
    scope.StageUse symbol ↔
      ∃ visit ∈ scope.visits, visit.stageUse? inner = some symbol := by
  simp only [Visit.stageUse?_eq_some_iff, collects.find?_eq_none_iff]
  constructor
  · rintro ⟨member, notLocal⟩
    exact ⟨.parameter symbol, member, rfl, notLocal⟩
  · rintro ⟨_, member, rfl, notLocal⟩
    exact ⟨member, notLocal⟩

theorem Scope.Served.acceptable {target : Target} {progress : Progress}
    {scope : Scope} (served : scope.Served target progress) :
    scope.Acceptable target := by
  obtain ⟨inner, collected, visits⟩ := served
  have collects := Locals.collects_ofDeclarations collected
  refine ⟨collects.alike, ?_⟩
  intro visit member
  exact (visit.check_ok_iff target collects).mp (visits visit member).checked

theorem Scope.Served.stageUse {target : Target} {progress : Progress}
    {scope : Scope} (served : scope.Served target progress)
    {symbol : Parameter} (used : scope.StageUse symbol) :
    target.Declares symbol ∧ symbol.symbol ∈ progress.symbols.symbols := by
  obtain ⟨inner, collected, visits⟩ := served
  obtain ⟨visit, member, uses⟩ :=
    (Scope.stageUse_iff (Locals.collects_ofDeclarations collected)).mp used
  exact (visits visit member).symbol symbol uses

theorem Scope.Served.covers {target : Target} {progress : Progress}
    {scope : Scope} (served : scope.Served target progress)
    {function : ShaderFunction}
    (called : function ∈ bodyCallees scope.body) :
    progress.Covers function := by
  obtain ⟨inner, _, visits⟩ := served
  obtain ⟨visit, member, calls⟩ := mem_bodyCallees_iff.mp called
  exact (visits visit member).function function calls

/-! ## Definitions and calls -/

/-- What a walk over a body defines is called from the body. -/
theorem Performs.calledFrom_of_mem {target : Target} {inner : Locals}
    {body : List Operation} {start finish : Progress}
    (walk : Performs target inner (bodyVisits 1 body) start finish) :
    ∀ definition ∈ finish.definitions,
      definition ∈ start.definitions ∨
        CalledFrom body definition.function := by
  intro definition member
  rcases walk.definitionsCalled definition member with old | called
  · exact Or.inl old
  · obtain ⟨callee, inBody, rfl | deeper⟩ := called
    · exact Or.inr (.direct inBody)
    · exact Or.inr ((CalledFrom.direct inBody).trans deeper)

namespace Shader.Walk

variable {dialect : Dialect} {shader : Shader} {locals : Locals}
  {finish : Progress}

theorem calledFrom_of_mem (walk : shader.Walk dialect locals finish)
    {definition : Definition} (member : definition ∈ finish.definitions) :
    CalledFrom shader.operations definition.function := by
  rcases walk.performs.calledFrom_of_mem definition member with old | called
  · cases old
  · exact called

theorem distinctSymbols (walk : shader.Walk dialect locals finish) :
    (finish.symbols.symbols.map Symbol.name).Nodup :=
  walk.performs.distinctSymbols List.nodup_nil

theorem distinctDefinitions (walk : shader.Walk dialect locals finish) :
    (finish.definitions.map fun known => known.function.name).Nodup :=
  walk.performs.distinctDefinitions List.nodup_nil

theorem entry_served (walk : shader.Walk dialect locals finish) :
    shader.entry.Served (shader.target dialect) finish :=
  ⟨locals, walk.collected, walk.performs.served⟩

theorem settled_of_mem (walk : shader.Walk dialect locals finish)
    {definition : Definition} (member : definition ∈ finish.definitions) :
    definition.function.Settled (shader.target dialect) finish := by
  refine walk.performs.sound ?_ definition member
  intro other impossible
  cases impossible

theorem covers (walk : shader.Walk dialect locals finish)
    (agree : shader.HandlesAgree) {function : ShaderFunction}
    (called : CalledFrom shader.operations function) :
    finish.Covers function := by
  induction called with
  | direct called =>
      exact walk.entry_served.covers called
  | @through caller function reached called inductionHypothesis =>
      obtain ⟨definition, member, _, same⟩ := inductionHypothesis
      have calledDefined := walk.calledFrom_of_mem member
      -- The definition may be that of another function, whose callees stand
      -- for those of the caller.
      obtain ⟨callee, calledByDefined, sameCallee⟩ :=
        agree.callee_of_standsFor calledDefined reached same called
      obtain ⟨known, knownMember, named, sameKnown⟩ :=
        (walk.settled_of_mem member).scope_served.covers calledByDefined
      have calledKnown := walk.calledFrom_of_mem knownMember
      have calledCallee := CalledFrom.through calledDefined calledByDefined
      have calledFunction := CalledFrom.through reached called
      have sameName : callee.name = function.name :=
        ShaderFunction.name_eq_of_canonical_eq <|
          agree.canonical_eq_of_standsFor calledCallee calledFunction
            sameCallee
      exact ⟨known, knownMember, named.trans sameName,
        agree.standsFor_trans calledKnown calledCallee calledFunction
          sameKnown sameCallee⟩

/-- A definition stands in for every function that is called. -/
theorem exists_definition (walk : shader.Walk dialect locals finish)
    (agree : shader.HandlesAgree) {function : ShaderFunction}
    (called : CalledFrom shader.operations function) :
    ∃ definition ∈ finish.definitions,
      definition.function.name = function.name ∧
        definition.function.canonical = function.canonical := by
  obtain ⟨definition, member, named, same⟩ := walk.covers agree called
  exact ⟨definition, member, named, agree.canonical_eq_of_standsFor
    (walk.calledFrom_of_mem member) called same⟩

/-- Every scope of the shader agrees with a served one. -/
theorem exists_served (walk : shader.Walk dialect locals finish)
    (agree : shader.HandlesAgree) {scope : Scope}
    (inShader : shader.HasScope scope) :
    ∃ twin : Scope, twin.canonical = scope.canonical ∧
      twin.Served (shader.target dialect) finish := by
  cases inShader with
  | entry =>
      exact ⟨shader.entry, rfl, walk.entry_served⟩
  | callee called =>
      obtain ⟨definition, member, _, same⟩ :=
        walk.exists_definition agree called
      exact ⟨definition.function.scope,
        ShaderFunction.canonical_scope_eq same,
        (walk.settled_of_mem member).scope_served⟩

/-- Every parameter of the stage that the shader uses is among the symbols. -/
theorem stageUse (walk : shader.Walk dialect locals finish)
    (agree : shader.HandlesAgree) {symbol : Parameter}
    (used : shader.StageUse symbol) :
    (shader.target dialect).Declares symbol ∧
      symbol.symbol ∈ finish.symbols.symbols := by
  obtain ⟨scope, inShader, usedInScope⟩ := used
  obtain ⟨twin, same, served⟩ := walk.exists_served agree inShader
  obtain ⟨other, usedInTwin, sameSymbol⟩ := usedInScope.of_canonical_eq same
  obtain ⟨declares, member⟩ := served.stageUse usedInTwin
  rw [sameSymbol] at member
  refine ⟨?_, member⟩
  obtain ⟨_, name, type, qualifier, arrayLength⟩ := other
  obtain ⟨_, name', type', qualifier', arrayLength'⟩ := symbol
  cases sameSymbol
  exact ⟨declares.array, declares.type, declares.qualifier⟩

end Shader.Walk

/-! ## A shader with layers of functions -/

def gainParameter : Parameter :=
  ⟨0, "gain", .scalar, .constant, 0⟩

/-- A function that reads a parameter of the stage. -/
def gainFunction (handle : Nat) : ShaderFunction :=
  ⟨handle, "tone", some .scalar, [],
    [.returnValue (.parameter gainParameter)]⟩

/-- A function that calls another one. -/
def shadeFunction : ShaderFunction :=
  ⟨0, "shade", none, [],
    [.assign .assign (.operation (.select (.builtIn .output) ".x"))
      (.operation (.call (gainFunction 1) []))]⟩

/-- A fragment shader that calls a function through another one and an equal
function itself. -/
def layeredShader : Shader :=
  ⟨.fragment, none, [.call shadeFunction [], .call (gainFunction 2) []]⟩

theorem calledFrom_layeredShader {function : ShaderFunction}
    (called : CalledFrom layeredShader.operations function) :
    function ∈ [shadeFunction, gainFunction 1, gainFunction 2] := by
  have entryCallees :
      bodyCallees layeredShader.operations =
        [shadeFunction, gainFunction 2] := rfl
  have shadeCallees :
      bodyCallees shadeFunction.body = [gainFunction 1] := rfl
  have gainCallees (handle : Nat) :
      bodyCallees (gainFunction handle).body = [] := rfl
  induction called with
  | direct called =>
      rw [entryCallees] at called
      simp only [List.mem_cons] at called ⊢
      grind
  | through _ called inductionHypothesis =>
      simp only [List.mem_cons, List.not_mem_nil, or_false]
        at inductionHypothesis
      rcases inductionHypothesis with rfl | rfl | rfl
      · rw [shadeCallees] at called
        simp only [List.mem_cons] at called ⊢
        grind
      · rw [gainCallees] at called
        cases called
      · rw [gainCallees] at called
        cases called

theorem layeredShader_handlesAgree : layeredShader.HandlesAgree := by
  intro first calledFirst second calledSecond handles
  have firstMember := calledFrom_layeredShader calledFirst
  have secondMember := calledFrom_layeredShader calledSecond
  simp only [List.mem_cons, List.not_mem_nil, or_false]
    at firstMember secondMember
  rcases firstMember with rfl | rfl | rfl <;>
    rcases secondMember with rfl | rfl | rfl <;>
      first
        | rfl
        | cases handles

theorem layeredShader_lowers :
    ∃ compiled, lower .glslEs100 layeredShader = .ok compiled := by
  have succeeds :
      (lower .glslEs100 layeredShader).toOption.isSome = true := by
    decide +kernel
  cases lowered : lower .glslEs100 layeredShader with
  | ok compiled =>
      exact ⟨compiled, rfl⟩
  | error fault =>
      rw [lowered] at succeeds
      cases succeeds

end Shaderwright
