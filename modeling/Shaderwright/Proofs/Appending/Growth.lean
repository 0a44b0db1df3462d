import Shaderwright.Proofs.Appending.Agreement
import Shaderwright.Proofs.LoweredShader
import Shaderwright.Proofs.RepeatedWalks

/-!
The state of the pass only grows. Whatever an operand or an operation calls,
writing it leaves the local variables as they were and adds to the rest; the
text that it appends does not depend on what is hoisted meanwhile, and writing
it again adds nothing (`writing_grows_state`).
-/

namespace Shaderwright

/-! ## Phrases -/

/-- What can be written: an operand, or an operation at a position. -/
inductive Phrase where
  | operand (value : Operand)
  | operation (position : Position) (node : Operation)

namespace Phrase

def write (target : Target) : Phrase → Writing Unit
  | .operand value => writeOperand target value
  | .operation position node => writeOperation target position node

def visits : Phrase → List Visit
  | .operand value => value.visits
  | .operation position node => node.visits position

def text (target : Target) : Phrase → String
  | .operand value => value.text target
  | .operation position node => node.text target position

/-- The functions that a phrase calls itself, in the order of its text. -/
def callees (phrase : Phrase) : List ShaderFunction :=
  phrase.visits.filterMap Visit.callee?

theorem write_appends (target : Target) (earlier : String)
    (locals : Locals) (phrase : Phrase) :
    Appends earlier locals (phrase.write target)
      (do performAll target locals phrase.visits
          return phrase.text target) := by
  cases phrase with
  | operand value =>
      exact (writeOperand_appends target earlier locals value).of_eq
        (lowerOperand_eq ..)
  | operation position node =>
      exact (writeOperation_appends target earlier locals position
        node).of_eq (lowerOperation_eq ..)

/-- A phrase is written exactly by a walk over it, and its text appended. -/
theorem write_runFrom_iff {target : Target} {phrase : Phrase}
    {earlier buffer written : String} {locals : Locals}
    {progress : Progress} {after : Pass} :
    (phrase.write target).runFrom (progress.pass earlier locals) buffer =
        .ok (written, after) ↔
      ∃ finish, Performs target locals phrase.visits progress finish ∧
        written = buffer ++ phrase.text target ∧
        after = finish.pass earlier locals := by
  have ran :=
    (phrase.write_appends target earlier locals).textFrom buffer progress
  rw [Writing.runFrom, ran]
  simp only [← performAll_run_iff, bind_assoc, pure_bind, EStateM.run_bind]
  cases (performAll target locals phrase.visits).run progress with
  | ok _ finish =>
      constructor
      · intro same
        cases same
        exact ⟨finish, rfl, rfl, rfl⟩
      · rintro ⟨other, same, rfl, rfl⟩
        cases same
        rfl
  | error fault finish =>
      constructor
      · intro same
        cases same
      · rintro ⟨other, same, _⟩
        cases same

end Phrase

/-! ## States -/

namespace Pass

/-- The definitions of the functions stand one behind the other. -/
def Consistent (target : Target) (pass : Pass) : Prop :=
  pass.functionSources =
    String.join (pass.functions.map (ShaderFunction.definitionText target))

theorem consistent_start (target : Target) (locals : Locals) :
    (start locals).Consistent target := by
  rfl

theorem Consistent.of_added {target : Target} {before after : Pass}
    {added : List ShaderFunction} (consistent : before.Consistent target)
    (functions : after.functions = before.functions ++ added)
    (sources : after.functionSources =
      before.functionSources ++
        String.join (added.map (ShaderFunction.definitionText target))) :
    after.Consistent target := by
  unfold Consistent at consistent ⊢
  rw [functions, sources, List.map_append, String.join_append, consistent]

/-- What has been met in a state. The texts of the definitions are left out;
they have been written before. -/
def progress (pass : Pass) : Progress where
  symbols := pass.symbols
  definitions := pass.functions.map fun function => ⟨function, ""⟩
  events := []

theorem join_texts_progress (pass : Pass) :
    String.join (pass.progress.definitions.map Definition.text) = "" := by
  obtain ⟨_, _, functions, _⟩ := pass
  induction functions with
  | nil =>
      rfl
  | cons _ rest inductionHypothesis =>
      simpa [progress] using inductionHypothesis

theorem functions_progress (pass : Pass) :
    pass.progress.definitions.map Definition.function = pass.functions := by
  simp [progress, Function.comp_def]

theorem pass_progress (pass : Pass) :
    pass.progress.pass pass.functionSources pass.locals = pass := by
  rw [Progress.pass, functions_progress, join_texts_progress,
    String.append_empty]
  rfl

end Pass

/-- Hoists functions one after the other. -/
def passAll (target : Target) (functions : List ShaderFunction) :
    Passing Unit :=
  functions.forM (passFunction target)

theorem passAll_mirrors (target : Target) (earlier : String)
    (locals : Locals) (functions : List ShaderFunction) :
    Mirrors earlier locals (passAll target functions)
      (hoistAll target functions) := by
  induction functions with
  | nil =>
      exact .pure ()
  | cons function rest inductionHypothesis =>
      exact .bind (passFunction_mirrors target earlier function locals)
        fun _ => inductionHypothesis

/-! ## Growth -/

/-- A walk from a state adds functions with their definitions, in one order. -/
theorem Performs.exists_added_pass {target : Target} {locals : Locals}
    {visits : List Visit} {before : Pass} {finish : Progress}
    (walk : Performs target locals visits before.progress finish) :
    ∃ added,
      (finish.pass before.functionSources locals).functions =
          before.functions ++ added ∧
        (finish.pass before.functionSources locals).functionSources =
          before.functionSources ++
            String.join
              (added.map (ShaderFunction.definitionText target)) := by
  obtain ⟨added, adds⟩ := walk.exists_added
  refine ⟨added, ?_, ?_⟩
  · rw [Progress.functions_pass, adds, List.map_append,
      before.functions_progress, List.map_map]
    exact congrArg (before.functions ++ ·) (List.map_id _)
  · rw [Progress.functionSources_pass, adds, List.map_append,
      String.join_append, before.join_texts_progress, String.empty_append,
      List.map_map]
    rfl

/-- Hoisting the callees of a walk leads to a state from which the walk defines
nothing. -/
theorem Performs.passAll_callees {target : Target} {before : Pass}
    {phrase : Phrase} {finish : Progress}
    (walk : Performs target before.locals phrase.visits before.progress
      finish) (buffer : String) :
    ∃ ready final,
      (passAll target phrase.callees).run before = .ok ((), ready) ∧
        ready.locals = before.locals ∧
        ready.functions = finish.definitions.map Definition.function ∧
        ready.functionSources =
          before.functionSources ++
            String.join (finish.definitions.map Definition.text) ∧
        (phrase.write target).runFrom ready buffer =
          .ok (buffer ++ phrase.text target, final) ∧
        final.functions = ready.functions ∧
        final.functionSources = ready.functionSources := by
  obtain ⟨ready, final, hoisted, defined, rewalk, unchanged⟩ :=
    walk.behind_callees
  have ran := passAll_mirrors target before.functionSources before.locals
    phrase.callees before.progress
  rw [before.pass_progress, Phrase.callees, hoisted] at ran
  refine ⟨ready.pass before.functionSources before.locals,
    final.pass before.functionSources before.locals, ran, rfl, ?_, ?_,
    Phrase.write_runFrom_iff.mpr ⟨final, rewalk, rfl, rfl⟩, ?_, ?_⟩
  · simp [defined]
  · simp [defined]
  · simp [unchanged]
  · simp [unchanged]

/-- Writing a phrase from any state puts the local variables back, keeps the
symbols, the functions and their definitions in front, and adds the
definition of each added function, in their order. The text appended to the
buffer is that of the phrase; it is the same where the callees have been
hoisted beforehand, which defines every function that writing the phrase
defines. Writing the phrase again appends its text and leaves the state as it
is. -/
theorem writing_grows_state {target : Target} {phrase : Phrase}
    {before after : Pass} {buffer written : String}
    (succeeds : (phrase.write target).runFrom before buffer =
      .ok (written, after)) :
    (after.locals = before.locals ∧
        before.symbols.symbols <+: after.symbols.symbols ∧
        (∃ added, after.functions = before.functions ++ added ∧
          after.functionSources =
            before.functionSources ++
              String.join
                (added.map (ShaderFunction.definitionText target))) ∧
        (before.Consistent target → after.Consistent target)) ∧
      written = buffer ++ phrase.text target ∧
      (∃ ready final,
        (passAll target phrase.callees).run before = .ok ((), ready) ∧
          ready.locals = before.locals ∧
          ready.functions = after.functions ∧
          ready.functionSources = after.functionSources ∧
          (phrase.write target).runFrom ready buffer =
            .ok (written, final) ∧
          final.functions = ready.functions ∧
          final.functionSources = ready.functionSources) ∧
      ∀ other, (phrase.write target).runFrom after other =
        .ok (other ++ phrase.text target, after) := by
  rw [← before.pass_progress, Phrase.write_runFrom_iff] at succeeds
  obtain ⟨finish, walk, rfl, rfl⟩ := succeeds
  obtain ⟨added, functions, sources⟩ := walk.exists_added_pass
  refine ⟨⟨rfl, walk.extends.symbols, ⟨added, functions, sources⟩, ?_⟩, rfl,
    walk.passAll_callees buffer, fun other => ?_⟩
  · intro consistent
    exact consistent.of_added functions sources
  · exact Phrase.write_runFrom_iff.mpr ⟨finish, walk.again, rfl, rfl⟩

/-- A call that hoists one function through another one. -/
def shadeCall : Phrase :=
  .operation (.statement 1) (.call shadeFunction [])

/-- The local variable of the calling body has the name of a symbol that the
callee of the callee reads. -/
theorem shadeCall_grows :
    ∃ after : Pass,
      (shadeCall.write ⟨.glslEs100, .fragment⟩).runFrom
          (.start ⟨[gainParameter]⟩) "" = .ok ("  shade();\n", after) ∧
        after.locals = ⟨[gainParameter]⟩ ∧
        after.symbols.symbols = [gainParameter.symbol] ∧
        after.functions.map ShaderFunction.name = ["tone", "shade"] ∧
        after.Consistent ⟨.glslEs100, .fragment⟩ ∧
        (shadeCall.write ⟨.glslEs100, .fragment⟩).runFrom after "" =
          .ok ("  shade();\n", after) := by
  have outcome :
      (((shadeCall.write ⟨.glslEs100, .fragment⟩).runFrom
          (.start ⟨[gainParameter]⟩) "").toOption.map
        fun (written, after) => (written, after.symbols.symbols,
          after.functions.map ShaderFunction.name)) =
        some ("  shade();\n", [gainParameter.symbol],
          ["tone", "shade"]) := by
    decide +kernel
  cases ran : (shadeCall.write ⟨.glslEs100, .fragment⟩).runFrom
      (.start ⟨[gainParameter]⟩) "" with
  | error fault =>
      rw [ran] at outcome
      cases outcome
  | ok result =>
      obtain ⟨written, after⟩ := result
      rw [ran] at outcome
      obtain ⟨rfl, met⟩ := Prod.mk.inj (Option.some.inj outcome)
      obtain ⟨symbols, names⟩ := Prod.mk.inj met
      obtain ⟨⟨locals, _, _, consistent⟩, text, _, again⟩ :=
        writing_grows_state ran
      rw [String.empty_append] at text
      have repeated := again ""
      rw [← text] at repeated
      exact ⟨after, rfl, locals, symbols, names,
        consistent (Pass.consistent_start _ _), repeated⟩

end Shaderwright
