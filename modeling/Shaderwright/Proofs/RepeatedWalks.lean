import Shaderwright.Proofs.Progress

/-!
Walks that are made again, or from elsewhere. A walk that finds all it asks
for adds nothing (`Performs.again`). Where the same functions have been defined
and no symbol disagrees, a walk and the calls of it by themselves define the
same functions (`Performs.replay`); once these are defined, the walk can be
made without defining any (`Performs.behind_callees`).
-/

namespace Shaderwright

/-! ## Added definitions -/

/-- What a walk adds to the definitions is written anew. -/
theorem Performs.exists_added {target : Target} {locals : Locals}
    {visits : List Visit} {start finish : Progress}
    (walk : Performs target locals visits start finish) :
    ∃ added : List ShaderFunction,
      finish.definitions =
        start.definitions ++
          added.map (ShaderFunction.definition target) := by
  refine walk.preserves
    (fun progress => ∃ added : List ShaderFunction,
      progress.definitions =
        start.definitions ++ added.map (ShaderFunction.definition target))
    ?_ ?_ ⟨[], (List.append_nil _).symm⟩
  · intro progress symbol isNew table _ _ earlier
    simpa using earlier
  · rintro function inner before after _ _ _ _ ⟨added, adds⟩
    refine ⟨added ++ [function], ?_⟩
    rw [Progress.definitions_withDefinition, adds, List.map_append,
      List.append_assoc]
    rfl

/-! ## Symbols within a table -/

namespace SymbolTable

/-- Whether all that is found in a table is found in another one too. -/
def Within (table whole : SymbolTable) : Prop :=
  ∀ ⦃name symbol⦄, table.find? name = some symbol →
    whole.find? name = some symbol

section Within

variable {table later whole : SymbolTable} {parameter : Parameter}
  {isNew : Bool}

theorem Within.refl (table : SymbolTable) : table.Within table :=
  fun _ _ found => found

theorem Within.of_grown (grown : table.symbols <+: later.symbols)
    (within : later.Within whole) : table.Within whole :=
  fun _ _ found => within (grown.find?_eq_some found)

/-- A parameter that is declared as in the whole table can be inserted. -/
theorem Within.insert (within : table.Within whole)
    (found : whole.find? parameter.name = some parameter.symbol) :
    ∃ isNew later, table.insert parameter = .ok (isNew, later) ∧
      later.Within whole := by
  cases searched : table.find? parameter.name with
  | none =>
      refine ⟨true, ⟨table.symbols ++ [parameter.symbol]⟩,
        insert_ok_iff.mpr (Or.inl ⟨rfl, searched, rfl⟩), ?_⟩
      intro name symbol foundLater
      unfold find? at foundLater
      rw [List.find?_append, Option.or_eq_some_iff] at foundLater
      rcases foundLater with old | ⟨_, new⟩
      · exact within old
      · have same := List.mem_of_find?_eq_some new
        rw [List.mem_singleton] at same
        have named := List.find?_some new
        rw [beq_iff_eq, same] at named
        rw [same, ← named]
        exact found
  | some known =>
      have same := Option.some.inj ((within searched).symm.trans found)
      exact ⟨false, table, insert_ok_iff.mpr
        (Or.inr ⟨rfl, rfl, known, searched, congrArg Symbol.shape same⟩),
        within⟩

end Within

end SymbolTable

/-! ## Walks without new definitions -/

section Walks

variable {target : Target} {locals : Locals} {visits : List Visit}
  {start finish : Progress}

theorem Progress.definition?_congr {first second : Progress}
    (same : first.definitions = second.definitions) (name : String) :
    first.definition? name = second.definition? name := by
  unfold Progress.definition?
  rw [same]

/-- Visits that find all they ask for, if only behind further symbols, make a
walk that defines nothing. It leaves behind what was there where no symbol is
missing either. -/
theorem performs_of_met {progress whole : Progress}
    (met : ∀ visit ∈ visits, visit.Met target locals whole)
    (defined : progress.definitions = whole.definitions)
    (within : progress.symbols.Within whole.symbols) :
    ∃ final, Performs target locals visits progress final ∧
      final.definitions = progress.definitions ∧
      (progress.symbols = whole.symbols → final = progress) := by
  induction visits generalizing progress with
  | nil =>
      exact ⟨progress, .done, rfl, fun _ => rfl⟩
  | cons visit rest inductionHypothesis =>
      obtain ⟨here, metRest⟩ := List.forall_mem_cons.mp met
      cases used : visit.stageUse? locals with
      | some symbol =>
          obtain ⟨declarable, found⟩ := here.symbol symbol used
          obtain ⟨isNew, table, inserted, withinLater⟩ :=
            within.insert found
          rw [← Progress.symbols_withSymbol inserted] at withinLater
          obtain ⟨final, walk, same, unchanged⟩ :=
            inductionHypothesis metRest
              (Progress.definitions_withSymbol.trans defined) withinLater
          refine ⟨final, .symbol here.checked used declarable inserted walk,
            same.trans Progress.definitions_withSymbol, fun complete => ?_⟩
          rcases SymbolTable.insert_ok_iff.mp inserted with
            ⟨_, missing, _⟩ | ⟨rfl, rfl, _⟩
          · rw [complete, found] at missing
            cases missing
          · exact unchanged complete
      | none =>
          cases called : visit.callee? with
          | none =>
              obtain ⟨final, walk, same, unchanged⟩ :=
                inductionHypothesis metRest defined within
              exact ⟨final, .plain here.checked used called walk, same,
                unchanged⟩
          | some function =>
              obtain ⟨definition, found, stands⟩ :=
                here.function function called
              obtain ⟨final, walk, same, unchanged⟩ :=
                inductionHypothesis metRest defined within
              exact ⟨final, .known here.checked called
                ((Progress.definition?_congr defined _).trans found) stands
                walk, same, unchanged⟩

/-- A walk that is made again adds nothing. -/
theorem Performs.again
    (walk : Performs target locals visits start finish) :
    Performs target locals visits finish finish := by
  obtain ⟨final, repeated, _, unchanged⟩ :=
    performs_of_met walk.met rfl (.refl finish.symbols)
  exact unchanged rfl ▸ repeated

/-! ## Other starts -/

/-- Where the same functions have been defined and no symbol disagrees, a walk
defines the same functions, and so does the part of it that keeps the calls. -/
theorem Performs.replay
    (walk : Performs target locals visits start finish)
    (keep : Visit → Bool)
    (keepsCalls : ∀ visit function, visit.callee? = some function →
      keep visit = true)
    {whole : SymbolTable} (withinWhole : finish.symbols.Within whole)
    {other : Progress} (defined : other.definitions = start.definitions)
    (within : other.symbols.Within whole) :
    ∃ final, Performs target locals (visits.filter keep) other final ∧
      final.definitions = finish.definitions ∧
      final.symbols.Within whole := by
  induction walk generalizing other keep with
  | done =>
      exact ⟨other, .done, defined, within⟩
  | @plain _ visit _ _ _ checked noSymbol noFunction _
      inductionHypothesis =>
      obtain ⟨final, repeated, same⟩ :=
        inductionHypothesis keep keepsCalls withinWhole defined within
      cases kept : keep visit with
      | true =>
          rw [List.filter_cons_of_pos kept]
          exact ⟨final, .plain checked noSymbol noFunction repeated, same⟩
      | false =>
          rw [List.filter_cons_of_neg (by simp [kept])]
          exact ⟨final, repeated, same⟩
  | @symbol _ visit _ _ _ symbol isNew table checked used declarable
      inserted later inductionHypothesis =>
      rw [Progress.definitions_withSymbol] at inductionHypothesis
      cases kept : keep visit with
      | true =>
          have found :=
            withinWhole <| later.extends.symbols.find?_eq_some <|
              (Progress.symbols_withSymbol inserted).symm ▸
                SymbolTable.find?_of_insert inserted
          obtain ⟨isNewHere, tableHere, insertedHere, withinLater⟩ :=
            within.insert found
          rw [← Progress.symbols_withSymbol insertedHere] at withinLater
          obtain ⟨final, repeated, same⟩ :=
            inductionHypothesis keep keepsCalls withinWhole
              (Progress.definitions_withSymbol.trans defined) withinLater
          rw [List.filter_cons_of_pos kept]
          exact ⟨final, .symbol checked used declarable insertedHere
            repeated, same⟩
      | false =>
          rw [List.filter_cons_of_neg (by simp [kept])]
          exact inductionHypothesis keep keepsCalls withinWhole defined
            within
  | @known _ visit _ _ _ function definition checked called found stands _
      inductionHypothesis =>
      obtain ⟨final, repeated, same⟩ :=
        inductionHypothesis keep keepsCalls withinWhole defined within
      rw [List.filter_cons_of_pos (keepsCalls visit function called)]
      exact ⟨final, .known checked called
        ((Progress.definition?_congr defined _).trans found) stands
        repeated, same⟩
  | @defined _ inner visit _ _ middle _ function checked called missing
      collected signed body untaken later bodyHypothesis
      laterHypothesis =>
      -- The walk over the body of the function keeps all its visits.
      obtain ⟨ending, bodyWalk, sameBody, withinBody⟩ :=
        bodyHypothesis (fun _ => true) (fun _ _ _ => rfl)
          (withinWhole.of_grown later.extends.symbols) defined within
      rw [List.filter_eq_self.mpr fun _ _ => rfl] at bodyWalk
      have sameLater :
          (ending.withDefinition (function.definition target)).definitions =
            (middle.withDefinition
              (function.definition target)).definitions := by
        simp [sameBody]
      obtain ⟨final, repeated, same⟩ :=
        laterHypothesis keep keepsCalls withinWhole sameLater withinBody
      rw [List.filter_cons_of_pos (keepsCalls visit function called)]
      exact ⟨final, .defined checked called
        ((Progress.definition?_congr defined _).trans missing) collected
        signed bodyWalk
        ((Progress.definition?_congr sameBody _).trans untaken) repeated,
        same⟩

/-! ## Calls in front -/

/-- Whether a visit calls a function. -/
def Visit.isCall (visit : Visit) : Bool :=
  visit.callee?.isSome

/-- Hoists functions one after the other. -/
def hoistAll (target : Target) (functions : List ShaderFunction) :
    Lowering Unit :=
  functions.forM (hoistFunction target)

theorem hoistAll_cons_run {functions : List ShaderFunction}
    {function : ShaderFunction} {middle : Progress}
    (first : (hoistFunction target function).run start = .ok () middle)
    (others : (hoistAll target functions).run middle = .ok () finish) :
    (hoistAll target (function :: functions)).run start =
      .ok () finish := by
  have sequence :
      hoistAll target (function :: functions) =
        (do hoistFunction target function
            hoistAll target functions) := rfl
  rw [sequence, EStateM.run_bind, first]
  exact others

/-- A walk along calls hoists the callees. -/
theorem Performs.hoists
    (walk : Performs target locals visits start finish)
    (calls : ∀ visit ∈ visits, visit.isCall = true) :
    (hoistAll target (visits.filterMap Visit.callee?)).run start =
      .ok () finish := by
  induction walk with
  | done =>
      rfl
  | plain _ _ noFunction _ _ =>
      have called := calls _ List.mem_cons_self
      rw [Visit.isCall, noFunction] at called
      cases called
  | symbol _ used _ _ _ _ =>
      obtain ⟨function, called⟩ :=
        Option.isSome_iff_exists.mp (calls _ List.mem_cons_self)
      rw [stageUse?_of_callee? called] at used
      cases used
  | known _ called found same _ inductionHypothesis =>
      rw [List.filterMap_cons_some called]
      refine hoistAll_cons_run (hoistFunction_run_iff.mpr ?_) <|
        inductionHypothesis (List.forall_mem_cons.mp calls).2
      exact Or.inl ⟨_, found, same, rfl⟩
  | defined _ called missing collected signed body untaken _ _
      laterHypothesis =>
      rw [List.filterMap_cons_some called]
      refine hoistAll_cons_run (hoistFunction_run_iff.mpr ?_) <|
        laterHypothesis (List.forall_mem_cons.mp calls).2
      exact Or.inr ⟨missing, _, _, collected, signed,
        performAll_run_iff.mpr body, untaken, rfl⟩

/-- The callees of a walk can be hoisted beforehand. This defines the functions
that the walk defines, and then the walk can be made without defining any. -/
theorem Performs.behind_callees
    (walk : Performs target locals visits start finish) :
    ∃ ready final,
      (hoistAll target (visits.filterMap Visit.callee?)).run start =
          .ok () ready ∧
        ready.definitions = finish.definitions ∧
        Performs target locals visits ready final ∧
        final.definitions = ready.definitions := by
  obtain ⟨ready, calls, defined, within⟩ :=
    walk.replay Visit.isCall
      (fun _ _ called => Option.isSome_iff_exists.mpr ⟨_, called⟩)
      (.refl finish.symbols) rfl
      (.of_grown walk.extends.symbols (.refl _))
  have callees :
      (visits.filter Visit.isCall).filterMap Visit.callee? =
        visits.filterMap Visit.callee? := by
    rw [List.filterMap_filter]
    refine congrArg (fun callee? => visits.filterMap callee?)
      (funext fun visit => ?_)
    unfold Visit.isCall
    cases visit.callee? <;> rfl
  obtain ⟨final, again, same, _⟩ :=
    performs_of_met walk.met defined within
  refine ⟨ready, final, callees ▸ calls.hoists ?_, defined, again, same⟩
  exact fun visit member => (List.mem_filter.mp member).2

end Walks

end Shaderwright
