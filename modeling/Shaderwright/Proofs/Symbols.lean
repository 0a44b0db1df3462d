import Shaderwright.Proofs.SourceText
import Shaderwright.Proofs.StageParameters

/-!
The symbols of a lowered shader. Each function is walked once only, and still
the symbols are the first occurrences of the naive walk, which goes through the
body of a function at every call: all that a defined function uses is known by
then (`Progress.Complete`).
-/

namespace Shaderwright

/-! ## First occurrences -/

/-- Of each name the symbol that is met first. -/
def firstOccurrences : List Symbol → List Symbol
  | [] => []
  | symbol :: rest =>
      symbol ::
        (firstOccurrences rest).filter fun later =>
          later.name ≠ symbol.name

theorem firstOccurrences_sublist (symbols : List Symbol) :
    (firstOccurrences symbols).Sublist symbols := by
  induction symbols with
  | nil =>
      exact .slnil
  | cons symbol rest inductionHypothesis =>
      exact .cons_cons symbol <|
        List.filter_sublist.trans inductionHypothesis

theorem nodup_firstOccurrences (symbols : List Symbol) :
    ((firstOccurrences symbols).map Symbol.name).Nodup := by
  induction symbols with
  | nil =>
      exact List.nodup_nil
  | cons symbol rest inductionHypothesis =>
      rw [firstOccurrences, List.map_cons, List.nodup_cons]
      constructor
      · intro member
        obtain ⟨later, inRest, named⟩ := List.mem_map.mp member
        have different := (List.mem_filter.mp inRest).2
        simp [named] at different
      · exact inductionHypothesis.sublist
          (List.filter_sublist.map Symbol.name)

theorem name_mem_firstOccurrences_iff {symbols : List Symbol}
    {name : String} :
    name ∈ (firstOccurrences symbols).map Symbol.name ↔
      name ∈ symbols.map Symbol.name := by
  induction symbols with
  | nil =>
      rfl
  | cons symbol rest inductionHypothesis =>
      simp only [firstOccurrences, List.map_cons, List.mem_cons,
        ← inductionHypothesis, List.mem_map, List.mem_filter]
      grind

theorem firstOccurrences_of_nodup {symbols : List Symbol}
    (distinct : (symbols.map Symbol.name).Nodup) :
    firstOccurrences symbols = symbols := by
  induction symbols with
  | nil =>
      rfl
  | cons symbol rest inductionHypothesis =>
      rw [List.map_cons, List.nodup_cons] at distinct
      rw [firstOccurrences, inductionHypothesis distinct.2]
      refine congrArg (symbol :: ·) (List.filter_eq_self.mpr ?_)
      intro later member
      have different : later.name ≠ symbol.name := fun named =>
        distinct.1 (List.mem_map.mpr ⟨later, member, named⟩)
      simpa using different

theorem firstOccurrences_append (first second : List Symbol) :
    firstOccurrences (first ++ second) =
      firstOccurrences first ++
        (firstOccurrences second).filter fun later =>
          later.name ∉ first.map Symbol.name := by
  induction first with
  | nil =>
      simp [firstOccurrences]
  | cons symbol rest inductionHypothesis =>
      rw [List.cons_append, firstOccurrences, inductionHypothesis,
        firstOccurrences, List.filter_append, List.filter_filter,
        List.cons_append]
      refine congrArg (symbol :: _ ++ ·) (List.filter_congr ?_)
      intro later _
      simp only [List.map_cons, List.mem_cons]
      grind

/-- Removing later occurrences early changes nothing. -/
theorem firstOccurrences_firstOccurrences_append
    (first second : List Symbol) :
    firstOccurrences (firstOccurrences first ++ second) =
      firstOccurrences (first ++ second) := by
  rw [firstOccurrences_append, firstOccurrences_append,
    firstOccurrences_of_nodup (nodup_firstOccurrences first)]
  simp only [name_mem_firstOccurrences_iff]

theorem firstOccurrences_append_known {known repeated : List Symbol}
    (names : ∀ symbol ∈ repeated, symbol.name ∈ known.map Symbol.name)
    (later : List Symbol) :
    firstOccurrences (known ++ (repeated ++ later)) =
      firstOccurrences (known ++ later) := by
  have nothingNew :
      firstOccurrences (known ++ repeated) = firstOccurrences known := by
    rw [firstOccurrences_append, List.filter_eq_nil_iff.mpr,
      List.append_nil]
    intro symbol member
    have inRepeated := (firstOccurrences_sublist repeated).subset member
    simpa using names symbol inRepeated
  rw [← List.append_assoc, ← firstOccurrences_firstOccurrences_append,
    nothingNew, firstOccurrences_firstOccurrences_append]

/-! ## The symbols of a walk -/

/-- The symbols that visits use, as the naive walk meets them. -/
def stageSymbols (locals : List Parameter) (visits : List Visit) :
    List Symbol :=
  (visits.flatMap (Visit.stageParameters locals)).map Parameter.symbol

theorem stageSymbols_cons (locals : List Parameter) (visit : Visit)
    (rest : List Visit) :
    stageSymbols locals (visit :: rest) =
      (visit.stageParameters locals).map Parameter.symbol ++
        stageSymbols locals rest := by
  simp [stageSymbols]

/-- What is defined belongs to a shader, and all that it uses has its name
among the symbols. -/
structure Progress.Complete (shader : Shader) (progress : Progress) :
    Prop where
  called : ∀ definition ∈ progress.definitions,
    CalledFrom shader.operations definition.function
  symbols : ∀ definition ∈ progress.definitions,
    ∀ symbol ∈ definition.function.stageParameters,
      symbol.name ∈ progress.symbols.symbols.map Symbol.name

section Visits

variable {locals : Locals} {declarations : List Parameter} {visit : Visit}

theorem any_name_eq_true_iff {name : String} :
    (declarations.any fun known => known.name == name) = true ↔
      ¬ ∀ known ∈ declarations, known.name ≠ name := by
  simp

theorem stageParameters_of_use (collects : locals.Collects declarations)
    {symbol : Parameter} (used : visit.stageUse? locals = some symbol) :
    visit.stageParameters declarations = [symbol] := by
  obtain ⟨rfl, missing⟩ := Visit.stageUse?_eq_some_iff.mp used
  have notLocal := collects.find?_eq_none_iff.mp missing
  rw [Visit.stageParameters, Operand.stageParameters,
    if_neg (any_name_eq_true_iff.not_left.mpr notLocal)]

theorem stageParameters_of_callee {function : ShaderFunction}
    (called : visit.callee? = some function) :
    visit.stageParameters declarations = function.stageParameters := by
  unfold Visit.callee? at called
  split at called
  · cases called
    rfl
  · cases called

theorem stageParameters_of_none (collects : locals.Collects declarations)
    (noSymbol : visit.stageUse? locals = none)
    (noFunction : visit.callee? = none) :
    visit.stageParameters declarations = [] := by
  cases visit with
  | parameter symbol =>
      have declared : locals.find? symbol.name ≠ none := by
        intro missing
        rw [Visit.stageUse?_eq_some_iff.mpr ⟨rfl, missing⟩] at noSymbol
        cases noSymbol
      rw [Ne, collects.find?_eq_none_iff] at declared
      rw [Visit.stageParameters, Operand.stageParameters,
        if_pos (any_name_eq_true_iff.mpr declared)]
  | operation position node =>
      cases node <;> first
        | rfl
        | cases noFunction
  | _ =>
      rfl

end Visits

section Walks

variable {shader : Shader} {target : Target} {locals : Locals}
  {visits : List Visit} {start finish : Progress}

/-- The symbols of a function are known where one that stands for it is
defined. -/
theorem Progress.Complete.known (complete : start.Complete shader)
    (agree : shader.HandlesAgree) {definition : Definition}
    (member : definition ∈ start.definitions) {function : ShaderFunction}
    (called : CalledFrom shader.operations function)
    (same : definition.function.StandsFor function) :
    ∀ symbol ∈ function.stageParameters.map Parameter.symbol,
      symbol.name ∈ start.symbols.symbols.map Symbol.name := by
  intro symbol mapped
  obtain ⟨parameter, used, rfl⟩ := List.mem_map.mp mapped
  have sameForm :=
    agree.canonical_eq_of_standsFor (complete.called definition member)
      called same
  obtain ⟨other, usedByDefined, named⟩ :=
    exists_stageParameter_of_canonical_eq sameForm used
  have found := complete.symbols definition member other usedByDefined
  rw [named] at found
  exact found

theorem Progress.Complete.withSymbol (complete : start.Complete shader)
    {symbol : Parameter} {isNew : Bool} {table : SymbolTable}
    (inserted : start.symbols.insert symbol = .ok (isNew, table)) :
    (start.withSymbol isNew table symbol).Complete shader := by
  constructor
  · rw [Progress.definitions_withSymbol]
    exact complete.called
  · rw [Progress.definitions_withSymbol]
    intro definition member other used
    have growth :=
      (Progress.Extends.withSymbol inserted).symbols.map Symbol.name
    exact growth.subset (complete.symbols definition member other used)

theorem Progress.Complete.withDefinition (complete : finish.Complete shader)
    {function : ShaderFunction}
    (called : CalledFrom shader.operations function)
    (walked : finish.symbols.symbols =
      firstOccurrences (start.symbols.symbols ++
        function.stageParameters.map Parameter.symbol)) :
    (finish.withDefinition (function.definition target)).Complete
      shader := by
  constructor
  · intro definition member
    rw [Progress.definitions_withDefinition] at member
    rcases List.mem_append.mp member with old | new
    · exact complete.called definition old
    · rw [List.mem_singleton.mp new]
      exact called
  · intro definition member symbol used
    rw [Progress.definitions_withDefinition] at member
    rw [Progress.symbols_withDefinition]
    rcases List.mem_append.mp member with old | new
    · exact complete.symbols definition old symbol used
    · rw [List.mem_singleton.mp new] at used
      rw [walked, name_mem_firstOccurrences_iff, List.map_append]
      refine List.mem_append_right _ <|
        List.mem_map.mpr ⟨symbol.symbol, ?_, rfl⟩
      exact List.mem_map_of_mem used

/-- A walk adds the first occurrences of the naive walk to the symbols. -/
theorem Performs.symbols_eq (agree : shader.HandlesAgree)
    (walk : Performs target locals visits start finish) :
    ∀ declarations : List Parameter, locals.Collects declarations →
      CalleesSatisfy (CalledFrom shader.operations) visits →
      (start.symbols.symbols.map Symbol.name).Nodup →
      start.Complete shader →
      finish.symbols.symbols =
          firstOccurrences
            (start.symbols.symbols ++ stageSymbols declarations visits) ∧
        finish.Complete shader := by
  induction walk with
  | done =>
      intro declarations _ _ distinct complete
      refine ⟨?_, complete⟩
      simpa [stageSymbols] using (firstOccurrences_of_nodup distinct).symm
  | plain _ noSymbol noFunction _ inductionHypothesis =>
      intro declarations collects called distinct complete
      rw [stageSymbols_cons,
        stageParameters_of_none collects noSymbol noFunction]
      exact inductionHypothesis declarations collects called.tail distinct
        complete
  | @symbol _ _ _ start finish symbol isNew table _ used _ inserted _
      inductionHypothesis =>
      intro declarations collects called distinct complete
      have onwards :=
        inductionHypothesis declarations collects called.tail
      rw [Progress.symbols_withSymbol inserted] at onwards
      rw [stageSymbols_cons, stageParameters_of_use collects used]
      rcases SymbolTable.insert_ok_iff.mp inserted with
        ⟨rfl, missing, rfl⟩ | ⟨rfl, rfl, known, found, _⟩
      · have nextDistinct := SymbolTable.nodup_of_insert inserted distinct
        have nextComplete := complete.withSymbol inserted
        simpa using onwards nextDistinct nextComplete
      · obtain ⟨member, named⟩ := SymbolTable.find?_some found
        have nothingNew :
            ∀ other ∈ [symbol].map Parameter.symbol,
              other.name ∈ start.symbols.symbols.map Symbol.name := by
          intro other isSymbol
          rw [List.mem_singleton.mp isSymbol]
          exact List.mem_map.mpr ⟨known, member, named⟩
        rw [firstOccurrences_append_known nothingNew]
        exact onwards distinct complete
  | @known _ visit _ start _ function definition _ calls found same _
      inductionHypothesis =>
      intro declarations collects called distinct complete
      obtain ⟨member, _⟩ := Progress.definition?_some found
      have calledFunction := called.head calls
      rw [stageSymbols_cons, stageParameters_of_callee calls,
        firstOccurrences_append_known
          (complete.known agree member calledFunction same)]
      exact inductionHypothesis declarations collects called.tail distinct
        complete
  | @defined _ inner visit rest start middle finish function _ calls _
      collected _ body _ _ bodyHypothesis laterHypothesis =>
      intro declarations collects called distinct complete
      have calledFunction := called.head calls
      obtain ⟨walked, middleComplete⟩ :=
        bodyHypothesis function.scope.locals
          (Locals.collects_ofDeclarations collected)
          (.of_bodyCallees fun callee below =>
            .through calledFunction below)
          distinct complete
      have bodySymbols :
          stageSymbols function.scope.locals (bodyVisits 1 function.body) =
            function.stageParameters.map Parameter.symbol := by
        rw [function.stageParameters_eq]
        rfl
      rw [bodySymbols] at walked
      have onwards :=
        laterHypothesis declarations collects called.tail
          (by
            rw [Progress.symbols_withDefinition, walked]
            exact nodup_firstOccurrences _)
          (middleComplete.withDefinition calledFunction walked)
      rw [Progress.symbols_withDefinition, walked,
        firstOccurrences_firstOccurrences_append, List.append_assoc]
        at onwards
      rw [stageSymbols_cons, stageParameters_of_callee calls]
      exact onwards

end Walks

/-! ## The symbols of a lowered shader -/

/-- The symbols of a lowered shader are the first occurrences of the naive
walk, and the source declares them in this order ahead of the definitions and
of the entry point. -/
theorem lower_symbols_eq_firstOccurrences {dialect : Dialect}
    {shader : Shader} {compiled : CompiledShader}
    (agree : shader.HandlesAgree)
    (lowered : lower dialect shader = .ok compiled) :
    (compiled.symbols.map Symbol.name).Nodup ∧
      compiled.symbols =
        firstOccurrences
          (shader.stageParameters.map Parameter.symbol) ∧
      ∃ functions,
        compiled.functions = functions.map ShaderFunction.name ∧
          compiled.Defines dialect shader functions := by
  obtain ⟨locals, finish, walk, symbols, functions, defines⟩ :=
    walk_of_lower lowered
  have startComplete : Progress.start.Complete shader := by
    constructor
    · intro definition impossible
      cases impossible
    · intro definition impossible
      cases impossible
  have naive :
      finish.symbols.symbols =
        firstOccurrences (shader.stageParameters.map Parameter.symbol) := by
    obtain ⟨walked, _⟩ :=
      walk.performs.symbols_eq agree shader.entry.locals
        (Locals.collects_ofDeclarations walk.collected)
        (.of_bodyCallees fun function below => .direct below)
        List.nodup_nil startComplete
    rw [walked, Shader.stageParameters, bodyStageParameters_eq _ 1]
    rfl
  refine ⟨?_, symbols.trans naive, _, ?_, defines⟩
  · rw [symbols, naive]
    exact nodup_firstOccurrences _
  · rw [functions, List.map_map]
    rfl

theorem layeredShader_symbols :
    ∃ compiled, lower .glslEs100 layeredShader = .ok compiled ∧
      layeredShader.HandlesAgree ∧
      compiled.symbols = [gainParameter.symbol] := by
  obtain ⟨compiled, lowered⟩ := layeredShader_lowers
  refine ⟨compiled, lowered, layeredShader_handlesAgree, ?_⟩
  rw [(lower_symbols_eq_firstOccurrences layeredShader_handlesAgree
    lowered).2.1]
  decide +kernel

end Shaderwright
