import Shaderwright.Proofs.Run

/-!
What a walk leaves behind. Symbols and definitions are only added, and at the
end every visit finds what it has asked for (`Performs.met`). So it has been
served: its check has passed, its parameter is a symbol of the stage or local,
and its callee is defined. What is defined has been served in the same way
(`Progress.Sound`).
-/

namespace Shaderwright

/-! ## Symbols and definitions by name -/

theorem SymbolTable.find?_eq_none_iff {table : SymbolTable}
    {name : String} :
    table.find? name = none ↔
      ∀ symbol ∈ table.symbols, symbol.name ≠ name := by
  simp [SymbolTable.find?]

theorem SymbolTable.find?_some {table : SymbolTable} {name : String}
    {symbol : Symbol} (found : table.find? name = some symbol) :
    symbol ∈ table.symbols ∧ symbol.name = name := by
  have named := List.find?_some found
  exact ⟨List.mem_of_find?_eq_some found, by simpa using named⟩

theorem Progress.definition?_eq_none_iff {progress : Progress}
    {name : String} :
    progress.definition? name = none ↔
      ∀ definition ∈ progress.definitions,
        definition.function.name ≠ name := by
  simp [Progress.definition?]

theorem Progress.definition?_some {progress : Progress} {name : String}
    {definition : Definition}
    (found : progress.definition? name = some definition) :
    definition ∈ progress.definitions ∧
      definition.function.name = name := by
  have named := List.find?_some found
  exact ⟨List.mem_of_find?_eq_some found, by simpa using named⟩

/-! ## Single steps -/

section Steps

variable {progress : Progress} {symbol : Parameter} {isNew : Bool}
  {table : SymbolTable}

@[simp]
theorem Progress.definitions_withSymbol :
    (progress.withSymbol isNew table symbol).definitions =
      progress.definitions := by
  cases isNew <;> rfl

theorem Progress.symbols_withSymbol
    (inserted : progress.symbols.insert symbol = .ok (isNew, table)) :
    (progress.withSymbol isNew table symbol).symbols = table := by
  rcases SymbolTable.insert_ok_iff.mp inserted with
    ⟨rfl, _, rfl⟩ | ⟨rfl, rfl, _⟩
  · rfl
  · rfl

/-- A symbol is its name and its shape. -/
theorem Symbol.eq_of_shape_eq {first second : Symbol}
    (named : first.name = second.name)
    (alike : first.shape = second.shape) : first = second := by
  obtain ⟨name, qualifier, type, arrayLength⟩ := first
  simp only [Symbol.shape, SymbolShape.mk.injEq] at alike
  obtain ⟨sameQualifier, sameType, sameLength⟩ := alike
  cases named
  cases sameQualifier
  cases sameType
  cases sameLength
  rfl

/-- A parameter that has been inserted is found as it is declared. -/
theorem SymbolTable.find?_of_insert {start : SymbolTable}
    (inserted : start.insert symbol = .ok (isNew, table)) :
    table.find? symbol.name = some symbol.symbol := by
  rcases SymbolTable.insert_ok_iff.mp inserted with
    ⟨_, missing, rfl⟩ | ⟨_, rfl, known, found, alike⟩
  · unfold SymbolTable.find? at missing ⊢
    rw [List.find?_append, missing, Option.none_or]
    exact List.find?_cons_of_pos (beq_self_eq_true _)
  · have named := (SymbolTable.find?_some found).2
    rw [found, Symbol.eq_of_shape_eq named alike]

theorem SymbolTable.prefix_of_insert {start : SymbolTable}
    (inserted : start.insert symbol = .ok (isNew, table)) :
    start.symbols <+: table.symbols := by
  rcases SymbolTable.insert_ok_iff.mp inserted with
    ⟨_, _, rfl⟩ | ⟨_, rfl, _⟩
  · exact List.prefix_append ..
  · exact List.prefix_rfl

theorem SymbolTable.nodup_of_insert {start : SymbolTable}
    (inserted : start.insert symbol = .ok (isNew, table))
    (distinct : (start.symbols.map Symbol.name).Nodup) :
    (table.symbols.map Symbol.name).Nodup := by
  rcases SymbolTable.insert_ok_iff.mp inserted with
    ⟨_, missing, rfl⟩ | ⟨_, rfl, _⟩
  · have fresh := SymbolTable.find?_eq_none_iff.mp missing
    simp only [List.map_append, List.map_cons, List.map_nil]
    refine List.nodup_append.mpr ⟨distinct, by simp, ?_⟩
    intro name member other equality
    obtain ⟨known, inTable, rfl⟩ := List.mem_map.mp member
    rw [List.mem_singleton.mp equality]
    exact fresh known inTable
  · exact distinct

@[simp]
theorem Progress.symbols_withDefinition {definition : Definition} :
    (progress.withDefinition definition).symbols = progress.symbols := by
  rfl

@[simp]
theorem Progress.definitions_withDefinition {definition : Definition} :
    (progress.withDefinition definition).definitions =
      progress.definitions ++ [definition] := by
  rfl

/-- A definition is found by the name that it takes. -/
theorem Progress.definition?_withDefinition {definition : Definition}
    (missing : progress.definition? definition.function.name = none) :
    (progress.withDefinition definition).definition?
      definition.function.name = some definition := by
  unfold Progress.definition? at missing ⊢
  rw [Progress.definitions_withDefinition, List.find?_append, missing,
    Option.none_or]
  exact List.find?_cons_of_pos (beq_self_eq_true _)

end Steps

/-! ## Growth -/

/-- Later progress has all earlier symbols and definitions, in their order. -/
structure Progress.Extends (earlier later : Progress) : Prop where
  symbols : earlier.symbols.symbols <+: later.symbols.symbols
  definitions : earlier.definitions <+: later.definitions

namespace Progress.Extends

theorem refl (progress : Progress) : progress.Extends progress :=
  ⟨List.prefix_rfl, List.prefix_rfl⟩

theorem trans {first second third : Progress}
    (before : first.Extends second) (after : second.Extends third) :
    first.Extends third :=
  ⟨before.symbols.trans after.symbols,
    before.definitions.trans after.definitions⟩

theorem withSymbol {progress : Progress} {symbol : Parameter}
    {isNew : Bool} {table : SymbolTable}
    (inserted : progress.symbols.insert symbol = .ok (isNew, table)) :
    progress.Extends (progress.withSymbol isNew table symbol) := by
  constructor
  · rw [Progress.symbols_withSymbol inserted]
    exact SymbolTable.prefix_of_insert inserted
  · have unchanged :
        (progress.withSymbol isNew table symbol).definitions =
          progress.definitions :=
      Progress.definitions_withSymbol
    exact unchanged ▸ List.prefix_rfl

theorem withDefinition (progress : Progress) (definition : Definition) :
    progress.Extends (progress.withDefinition definition) :=
  ⟨List.prefix_rfl, List.prefix_append ..⟩

end Progress.Extends

section Walks

variable {target : Target} {locals : Locals} {visits : List Visit}
  {start finish : Progress}

/-- A walk only adds symbols and definitions. -/
theorem Performs.extends
    (walk : Performs target locals visits start finish) :
    start.Extends finish := by
  induction walk with
  | done =>
      exact .refl _
  | plain _ _ _ _ inductionHypothesis =>
      exact inductionHypothesis
  | symbol _ _ _ inserted _ inductionHypothesis =>
      exact (Progress.Extends.withSymbol inserted).trans
        inductionHypothesis
  | known _ _ _ _ _ inductionHypothesis =>
      exact inductionHypothesis
  | defined _ _ _ _ _ _ _ _ bodyHypothesis laterHypothesis =>
      exact bodyHypothesis.trans <|
        (Progress.Extends.withDefinition ..).trans laterHypothesis

/-- A walk preserves what its two kinds of steps preserve. A definition is
added after a walk over the body of its function. -/
theorem Performs.preserves (property : Progress → Prop)
    (symbolStep :
      ∀ (progress : Progress) (symbol : Parameter) (isNew : Bool)
        (table : SymbolTable),
        target.Declares symbol →
        progress.symbols.insert symbol = .ok (isNew, table) →
        property progress →
        property (progress.withSymbol isNew table symbol))
    (definitionStep :
      ∀ (function : ShaderFunction) (inner : Locals)
        (before after : Progress),
        Locals.ofBody function.parameters function.body = .ok inner →
        outcome (function.signature target) = .ok () →
        Performs target inner (bodyVisits 1 function.body) before after →
        after.definition? function.name = none →
        property after →
        property (after.withDefinition (function.definition target)))
    (walk : Performs target locals visits start finish)
    (holds : property start) : property finish := by
  induction walk with
  | done =>
      exact holds
  | plain _ _ _ _ inductionHypothesis =>
      exact inductionHypothesis holds
  | symbol _ _ declarable inserted _ inductionHypothesis =>
      exact inductionHypothesis <|
        symbolStep _ _ _ _ declarable inserted holds
  | known _ _ _ _ _ inductionHypothesis =>
      exact inductionHypothesis holds
  | defined _ _ _ collected signed body untaken _ bodyHypothesis
      laterHypothesis =>
      exact laterHypothesis <|
        definitionStep _ _ _ _ collected signed body untaken <|
          bodyHypothesis holds

theorem Performs.distinctDefinitions
    (walk : Performs target locals visits start finish)
    (distinct :
      (start.definitions.map fun known => known.function.name).Nodup) :
    (finish.definitions.map fun known => known.function.name).Nodup := by
  refine walk.preserves
    (fun progress =>
      (progress.definitions.map fun known => known.function.name).Nodup)
    ?_ ?_ distinct
  · intro progress symbol isNew table _ _ distinct
    simpa using distinct
  · intro function inner before after _ _ _ untaken distinct
    have fresh := Progress.definition?_eq_none_iff.mp untaken
    simp only [Progress.definitions_withDefinition, List.map_append,
      List.map_cons, List.map_nil]
    refine List.nodup_append.mpr ⟨distinct, by simp, ?_⟩
    intro name member other equality
    obtain ⟨definition, inList, rfl⟩ := List.mem_map.mp member
    rw [List.mem_singleton.mp equality]
    exact fresh definition inList

theorem Performs.distinctSymbols
    (walk : Performs target locals visits start finish)
    (distinct : (start.symbols.symbols.map Symbol.name).Nodup) :
    (finish.symbols.symbols.map Symbol.name).Nodup := by
  refine walk.preserves
    (fun progress => (progress.symbols.symbols.map Symbol.name).Nodup)
    ?_ ?_ distinct
  · intro progress symbol isNew table _ inserted distinct
    rw [Progress.symbols_withSymbol inserted]
    exact SymbolTable.nodup_of_insert inserted distinct
  · intro function inner before after _ _ _ _ distinct
    simpa using distinct

theorem Performs.symbolsDeclarable
    (walk : Performs target locals visits start finish)
    (declarable : ∀ symbol ∈ start.symbols.symbols,
      ∃ parameter, target.Declares parameter ∧
        parameter.symbol = symbol) :
    ∀ symbol ∈ finish.symbols.symbols,
      ∃ parameter, target.Declares parameter ∧
        parameter.symbol = symbol := by
  refine walk.preserves
    (fun progress => ∀ symbol ∈ progress.symbols.symbols,
      ∃ parameter, target.Declares parameter ∧
        parameter.symbol = symbol)
    ?_ ?_ declarable
  · intro progress parameter isNew table declares inserted earlier
    rw [Progress.symbols_withSymbol inserted]
    rcases SymbolTable.insert_ok_iff.mp inserted with
      ⟨_, _, rfl⟩ | ⟨_, rfl, _⟩
    · intro symbol member
      rcases List.mem_append.mp member with old | new
      · exact earlier symbol old
      · exact ⟨parameter, declares, (List.mem_singleton.mp new).symm⟩
    · exact earlier
  · intro function inner before after _ _ _ _ earlier
    simpa using earlier

theorem Performs.definitionsWritten
    (walk : Performs target locals visits start finish)
    (written : ∀ definition ∈ start.definitions,
      definition = definition.function.definition target) :
    ∀ definition ∈ finish.definitions,
      definition = definition.function.definition target := by
  refine walk.preserves
    (fun progress => ∀ definition ∈ progress.definitions,
      definition = definition.function.definition target)
    ?_ ?_ written
  · intro progress symbol isNew table _ _ earlier
    simpa using earlier
  · intro function inner before after _ _ _ _ earlier definition member
    rw [Progress.definitions_withDefinition] at member
    rcases List.mem_append.mp member with old | new
    · exact earlier definition old
    · rw [List.mem_singleton.mp new]
      rfl

/-- What is defined was defined before or is called by the walk. -/
theorem Performs.definitionsCalled
    (walk : Performs target locals visits start finish) :
    ∀ definition ∈ finish.definitions,
      definition ∈ start.definitions ∨
        ∃ callee ∈ visits.filterMap Visit.callee?,
          definition.function = callee ∨
            CalledFrom callee.body definition.function := by
  have later {visit : Visit} {rest : List Visit}
      {function : ShaderFunction}
      (called : ∃ callee ∈ rest.filterMap Visit.callee?,
        function = callee ∨ CalledFrom callee.body function) :
      ∃ callee ∈ (visit :: rest).filterMap Visit.callee?,
        function = callee ∨ CalledFrom callee.body function := by
    obtain ⟨callee, member, reached⟩ := called
    obtain ⟨other, inRest, equality⟩ := List.mem_filterMap.mp member
    exact ⟨callee, List.mem_filterMap.mpr
      ⟨other, List.mem_cons_of_mem visit inRest, equality⟩, reached⟩
  induction walk with
  | done =>
      intro definition member
      exact Or.inl member
  | plain _ _ _ _ inductionHypothesis =>
      intro definition member
      exact (inductionHypothesis definition member).imp_right later
  | symbol _ _ _ inserted _ inductionHypothesis =>
      intro definition member
      have cases := inductionHypothesis definition member
      rw [Progress.definitions_withSymbol] at cases
      exact cases.imp_right later
  | known _ _ _ _ _ inductionHypothesis =>
      intro definition member
      exact (inductionHypothesis definition member).imp_right later
  | @defined _ _ visit rest _ _ _ function _ called _ _ _ _ _ _
      bodyHypothesis laterHypothesis =>
      intro definition member
      have here : function ∈ (visit :: rest).filterMap Visit.callee? :=
        List.mem_filterMap.mpr ⟨visit, List.mem_cons_self .., called⟩
      rcases laterHypothesis definition member with old | inRest
      · rw [Progress.definitions_withDefinition] at old
        rcases List.mem_append.mp old with inBody | new
        · rcases bodyHypothesis definition inBody with before | inside
          · exact Or.inl before
          · obtain ⟨callee, calledByBody, reached⟩ := inside
            refine Or.inr ⟨function, here, Or.inr ?_⟩
            rcases reached with rfl | deeper
            · exact .direct calledByBody
            · exact (CalledFrom.direct calledByBody).trans deeper
        · rw [List.mem_singleton.mp new]
          exact Or.inr ⟨function, here, Or.inl rfl⟩
      · exact Or.inr (later inRest)

end Walks

/-! ## Visits that find all they ask for -/

/-- Whether a visit finds all that it asks for. -/
structure Visit.Met (target : Target) (locals : Locals)
    (progress : Progress) (visit : Visit) : Prop where
  checked : visit.check target locals = .ok ()
  symbol : ∀ symbol, visit.stageUse? locals = some symbol →
    target.Declares symbol ∧
      progress.symbols.find? symbol.name = some symbol.symbol
  function : ∀ function, visit.callee? = some function →
    ∃ definition, progress.definition? function.name = some definition ∧
      definition.function.StandsFor function

section Meeting

variable {target : Target} {locals : Locals} {visits : List Visit}
  {start finish : Progress}

theorem Progress.definition?_mono {earlier later : Progress}
    (growth : earlier.Extends later) {name : String}
    {definition : Definition}
    (found : earlier.definition? name = some definition) :
    later.definition? name = some definition :=
  growth.definitions.find?_eq_some found

namespace Visit.Met

variable {progress : Progress} {visit : Visit}

/-- A visit that asks for nothing finds all it asks for. -/
theorem of_plain (checked : visit.check target locals = .ok ())
    (noSymbol : visit.stageUse? locals = none)
    (noFunction : visit.callee? = none) :
    visit.Met target locals progress where
  checked := checked
  symbol := by
    intro symbol used
    rw [noSymbol] at used
    cases used
  function := by
    intro function called
    rw [noFunction] at called
    cases called

theorem of_symbol {symbol : Parameter}
    (checked : visit.check target locals = .ok ())
    (used : visit.stageUse? locals = some symbol)
    (declarable : target.Declares symbol)
    (found : progress.symbols.find? symbol.name = some symbol.symbol) :
    visit.Met target locals progress where
  checked := checked
  symbol := by
    intro other usedOther
    rw [used] at usedOther
    cases usedOther
    exact ⟨declarable, found⟩
  function := by
    intro function called
    rw [stageUse?_of_callee? called] at used
    cases used

theorem of_callee {function : ShaderFunction} {definition : Definition}
    (checked : visit.check target locals = .ok ())
    (called : visit.callee? = some function)
    (found : progress.definition? function.name = some definition)
    (same : definition.function.StandsFor function) :
    visit.Met target locals progress where
  checked := checked
  symbol := by
    intro symbol used
    rw [stageUse?_of_callee? called] at used
    cases used
  function := by
    intro other calledOther
    rw [called] at calledOther
    cases calledOther
    exact ⟨definition, found, same⟩

end Visit.Met

/-- At its end a walk finds all that it has asked for. -/
theorem Performs.met
    (walk : Performs target locals visits start finish) :
    ∀ visit ∈ visits, visit.Met target locals finish := by
  induction walk with
  | done =>
      intro visit member
      cases member
  | plain checked noSymbol noFunction _ inductionHypothesis =>
      exact List.forall_mem_cons.mpr
        ⟨.of_plain checked noSymbol noFunction, inductionHypothesis⟩
  | symbol checked used declarable inserted later inductionHypothesis =>
      have found := SymbolTable.find?_of_insert inserted
      rw [← Progress.symbols_withSymbol inserted] at found
      exact List.forall_mem_cons.mpr
        ⟨.of_symbol checked used declarable
            (later.extends.symbols.find?_eq_some found),
          inductionHypothesis⟩
  | known checked called found same later inductionHypothesis =>
      exact List.forall_mem_cons.mpr
        ⟨.of_callee checked called
            (Progress.definition?_mono later.extends found) same,
          inductionHypothesis⟩
  | @defined _ _ _ _ _ middle _ function checked called _ _ _ _ untaken
      later _ laterHypothesis =>
      have found :
          (middle.withDefinition
            (function.definition target)).definition? function.name =
              some (function.definition target) :=
        Progress.definition?_withDefinition untaken
      exact List.forall_mem_cons.mpr
        ⟨.of_callee checked called
            (Progress.definition?_mono later.extends found) (Or.inl rfl),
          laterHypothesis⟩

end Meeting

/-! ## Service -/

/-- A function of the name is defined and stands for the function. -/
def Progress.Covers (progress : Progress) (function : ShaderFunction) :
    Prop :=
  ∃ definition ∈ progress.definitions,
    definition.function.name = function.name ∧
      definition.function.StandsFor function

/-- All that a visit asks for is there. -/
structure Visit.Served (target : Target) (locals : Locals)
    (progress : Progress) (visit : Visit) : Prop where
  checked : visit.check target locals = .ok ()
  symbol : ∀ symbol, visit.stageUse? locals = some symbol →
    target.Declares symbol ∧ symbol.symbol ∈ progress.symbols.symbols
  function : ∀ function, visit.callee? = some function →
    progress.Covers function

/-- A function whose body has been served under its own local variables. -/
def ShaderFunction.Settled (target : Target) (progress : Progress)
    (function : ShaderFunction) : Prop :=
  outcome (function.signature target) = .ok () ∧
    ∃ inner, Locals.ofBody function.parameters function.body = .ok inner ∧
      ∀ visit ∈ bodyVisits 1 function.body,
        visit.Served target inner progress

/-- All that is defined is settled. -/
def Progress.Sound (target : Target) (progress : Progress) : Prop :=
  ∀ definition ∈ progress.definitions,
    definition.function.Settled target progress

section Service

variable {target : Target} {locals : Locals} {visits : List Visit}
  {start finish earlier later : Progress}

theorem Progress.Covers.mono {function : ShaderFunction}
    (covers : earlier.Covers function) (growth : earlier.Extends later) :
    later.Covers function := by
  obtain ⟨definition, member, named, same⟩ := covers
  exact ⟨definition, growth.definitions.subset member, named, same⟩

theorem Visit.Served.mono {visit : Visit}
    (served : visit.Served target locals earlier)
    (growth : earlier.Extends later) :
    visit.Served target locals later where
  checked := served.checked
  symbol := fun symbol used =>
    ⟨(served.symbol symbol used).1,
      growth.symbols.subset (served.symbol symbol used).2⟩
  function := fun function called =>
    (served.function function called).mono growth

theorem ShaderFunction.Settled.mono {function : ShaderFunction}
    (settled : function.Settled target earlier)
    (growth : earlier.Extends later) :
    function.Settled target later := by
  obtain ⟨signed, inner, collected, served⟩ := settled
  exact ⟨signed, inner, collected, fun visit member =>
    (served visit member).mono growth⟩

/-- What finds all that it asks for is served. -/
theorem Visit.Met.served {visit : Visit}
    (met : visit.Met target locals later) :
    visit.Served target locals later where
  checked := met.checked
  symbol := fun symbol used =>
    ⟨(met.symbol symbol used).1,
      (SymbolTable.find?_some (met.symbol symbol used).2).1⟩
  function := by
    intro function called
    obtain ⟨definition, found, same⟩ := met.function function called
    obtain ⟨inList, named⟩ := Progress.definition?_some found
    exact ⟨definition, inList, named, same⟩

/-- At its end a walk has served all its visits. -/
theorem Performs.served
    (walk : Performs target locals visits start finish) :
    ∀ visit ∈ visits, visit.Served target locals finish :=
  fun visit member => (walk.met visit member).served

/-- A walk keeps all that is defined settled. -/
theorem Performs.sound
    (walk : Performs target locals visits start finish)
    (sound : start.Sound target) : finish.Sound target := by
  refine walk.preserves (Progress.Sound target) ?_ ?_ sound
  · intro progress symbol isNew table _ inserted earlier definition member
    rw [Progress.definitions_withSymbol] at member
    exact (earlier definition member).mono
      (Progress.Extends.withSymbol inserted)
  · intro function inner before after collected signed body _ earlier
      definition member
    have growth :=
      Progress.Extends.withDefinition after (function.definition target)
    rw [Progress.definitions_withDefinition] at member
    rcases List.mem_append.mp member with old | new
    · exact (earlier definition old).mono growth
    · rw [List.mem_singleton.mp new]
      exact ⟨signed, inner, collected, fun visit inBody =>
        (body.served visit inBody).mono growth⟩

end Service

end Shaderwright
