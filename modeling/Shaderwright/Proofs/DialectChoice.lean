import Shaderwright.Proofs.LoweredShader

/-!
What a dialect has no say in. Lowering asks a dialect for words and nothing
else, so two dialects that have every keyword lead to one outcome, up to the
text; a dialect that lacks keywords leads to the same outcome or to a fault
that names a keyword it lacks (`lower_dialects_agree`).
-/

namespace Shaderwright

/-! ## Keywords -/

/-- A dialect has a keyword for every type, qualifier and precision. -/
structure Dialect.Complete (dialect : Dialect) : Prop where
  types : ∀ type, (dialect.types type).isSome = true
  qualifiers : ∀ qualifier, (dialect.qualifiers qualifier).isSome = true
  precisions : ∀ precision, (dialect.precisions precision).isSome = true

/-- A fault reports a missing keyword that a dialect does lack. -/
def Dialect.Lacks (dialect : Dialect) : LoweringError → Prop
  | .unmappableType name _ type =>
      name = dialect.name ∧ dialect.types type = none
  | .unmappableQualifier name _ qualifier =>
      name = dialect.name ∧ dialect.qualifiers qualifier = none
  | .unmappablePrecision name precision =>
      name = dialect.name ∧ dialect.precisions precision = none
  | _ => False

theorem Dialect.Complete.not_lacks {dialect : Dialect}
    (complete : dialect.Complete) (fault : LoweringError) :
    ¬ dialect.Lacks fault := by
  intro lacks
  cases fault with
  | unmappableType name usedBy type =>
      have known := complete.types type
      rw [lacks.2] at known
      cases known
  | unmappableQualifier name usedBy qualifier =>
      have known := complete.qualifiers qualifier
      rw [lacks.2] at known
      cases known
  | unmappablePrecision name precision =>
      have known := complete.precisions precision
      rw [lacks.2] at known
      cases known
  | _ =>
      exact lacks

/-- What a compiled shader is to a runtime, its text apart. -/
def CompiledShader.interface (compiled : CompiledShader) :
    Stage × List Symbol × List String :=
  (compiled.stage, compiled.symbols, compiled.functions)

/-! ## Two runs side by side -/

/-- Two checks find the same, or the first one finds that a keyword is
missing. -/
def ChecksAgree (dialect : Dialect) {α : Type}
    (first second : Except LoweringError α) : Prop :=
  first = second ∨ ∃ fault, first = .error fault ∧ dialect.Lacks fault

/-- The same has been met, in what may be different words. -/
structure Progress.SameMet (first second : Progress) : Prop where
  symbols : first.symbols = second.symbols
  functions :
    first.definitions.map Definition.function =
      second.definitions.map Definition.function

/-- A name is defined by one function in both runs, or in neither. -/
theorem Progress.SameMet.definition? {first second : Progress}
    (met : first.SameMet second) (name : String) :
    (first.definition? name).map Definition.function =
      (second.definition? name).map Definition.function := by
  have named (progress : Progress) :
      (progress.definition? name).map Definition.function =
        (progress.definitions.map Definition.function).find?
          fun function => function.name == name := by
    rw [List.find?_map]
    rfl
  rw [named first, named second, met.functions]

/-- Two ends of a run: with results that go together, with one fault, or the
first one with a fault that reports a missing keyword. -/
inductive EndsAgree (dialect : Dialect) {α : Type} (agree : α → α → Prop) :
    EStateM.Result LoweringError Progress α →
      EStateM.Result LoweringError Progress α → Prop
  | ok {value value' : α} {first second : Progress}
      (values : agree value value') (met : first.SameMet second) :
      EndsAgree dialect agree (.ok value first) (.ok value' second)
  | error {fault : LoweringError} {first second : Progress} :
      EndsAgree dialect agree (.error fault first) (.error fault second)
  | lacking {fault : LoweringError} {first : Progress}
      {second : EStateM.Result LoweringError Progress α}
      (lacks : dialect.Lacks fault) :
      EndsAgree dialect agree (.error fault first) second

/-- Two steps that end alike wherever the same has been met before. -/
def RunsAgree (dialect : Dialect) {α : Type} (agree : α → α → Prop)
    (first second : Lowering α) : Prop :=
  ∀ start start' : Progress, start.SameMet start' →
    EndsAgree dialect agree (first.run start) (second.run start')

private theorem outcome_mapM_cons {α γ : Type}
    (convert : γ → Except LoweringError α) (value : γ) (rest : List γ) :
    outcome ((value :: rest).mapM convert) =
      (do outcome (convert value)
          outcome (rest.mapM convert)) := by
  rw [List.mapM_cons]
  cases convert value with
  | error fault =>
      rfl
  | ok result =>
      cases rest.mapM convert <;> rfl

namespace ChecksAgree

variable {dialect : Dialect} {α β : Type}

theorem refl (result : Except LoweringError α) :
    ChecksAgree dialect result result :=
  Or.inl rfl

/-- A check after a check. -/
theorem bind {first second : Except LoweringError α}
    {next next' : α → Except LoweringError β}
    (before : ChecksAgree dialect first second)
    (after : ∀ value, ChecksAgree dialect (next value) (next' value)) :
    ChecksAgree dialect (first >>= next) (second >>= next') := by
  rcases before with rfl | ⟨fault, rfl, lacks⟩
  · cases first with
    | ok value =>
        exact after value
    | error fault =>
        exact refl _
  · exact Or.inr ⟨fault, rfl, lacks⟩

/-- One check for each member of a list. -/
theorem mapM {γ : Type} {values : List γ}
    {convert convert' : γ → Except LoweringError α}
    (each : ∀ value, ChecksAgree dialect (outcome (convert value))
      (outcome (convert' value))) :
    ChecksAgree dialect (outcome (values.mapM convert))
      (outcome (values.mapM convert')) := by
  induction values with
  | nil =>
      exact refl _
  | cons value rest inductionHypothesis =>
      have first := each value
      rw [outcome_mapM_cons, outcome_mapM_cons]
      exact first.bind fun _ => inductionHypothesis

end ChecksAgree

namespace RunsAgree

variable {dialect : Dialect} {α β : Type} {agree : α → α → Prop}

theorem pure {value value' : α} (values : agree value value') :
    RunsAgree dialect agree (Pure.pure value) (Pure.pure value') := by
  intro start start' met
  exact .ok values met

theorem throw (fault : LoweringError) :
    RunsAgree dialect agree (MonadExcept.throw fault : Lowering α)
      (MonadExcept.throw fault) := by
  intro start start' met
  exact .error

theorem check {first second : Except LoweringError α}
    (checks : ChecksAgree dialect first second) :
    RunsAgree dialect Eq (Lowering.check first) (Lowering.check second) := by
  rcases checks with rfl | ⟨fault, rfl, lacks⟩
  · cases first with
    | ok value =>
        exact pure rfl
    | error fault =>
        exact throw fault
  · intro start start' met
    exact .lacking lacks

theorem bind {first second : Lowering β} {next next' : β → Lowering α}
    (before : RunsAgree dialect Eq first second)
    (after : ∀ value, RunsAgree dialect agree (next value) (next' value)) :
    RunsAgree dialect agree (first >>= next) (second >>= next') := by
  intro start start' met
  have ends := before start start' met
  rw [EStateM.run_bind, EStateM.run_bind]
  generalize first.run start = end₁ at ends ⊢
  generalize second.run start' = end₂ at ends ⊢
  cases ends with
  | ok values met =>
      subst values
      exact after _ _ _ met
  | error =>
      exact .error
  | lacking lacks =>
      exact .lacking lacks

/-- Checks with different results, of which only the outcomes agree. -/
theorem check_then [Inhabited β] {first second : Except LoweringError β}
    {next next' : β → Lowering α}
    (checks : ChecksAgree dialect (outcome first) (outcome second))
    (after : RunsAgree dialect agree (next (resultOf first))
      (next' (resultOf second))) :
    RunsAgree dialect agree (Lowering.check first >>= next)
      (Lowering.check second >>= next') := by
  rw [Lowering.check_bind first, Lowering.check_bind second]
  exact bind (check checks) fun _ => after

theorem get_then {next next' : Progress → Lowering α}
    (after : ∀ progress progress' : Progress, progress.SameMet progress' →
      RunsAgree dialect agree (next progress) (next' progress')) :
    RunsAgree dialect agree (get >>= next) (get >>= next') := by
  intro start start' met
  exact after start start' met start start' met

theorem set {first second : Progress} (met : first.SameMet second) :
    RunsAgree dialect Eq (MonadStateOf.set first : Lowering PUnit)
      (MonadStateOf.set second) := by
  intro _ _ _
  exact .ok rfl met

end RunsAgree

/-! ## Words -/

private theorem outcome_literalText (target : Target) {value : Literal}
    (composite : value.type ≠ .scalar ∧ value.type ≠ .boolean) :
    outcome (target.literalText value) =
      (do outcome (target.typeKeyword value.type "literal")
          outcome (value.components.mapM numberText)) := by
  rw [literalText_of_composite target composite]
  cases target.typeKeyword value.type "literal" with
  | error fault =>
      rfl
  | ok keyword =>
      cases value.components.mapM numberText <;> rfl

private theorem outcome_declarationText (target : Target)
    (symbol : Symbol) :
    outcome (target.declarationText symbol) =
      (do outcome (target.qualifierKeyword symbol.qualifier symbol.name)
          outcome (target.typeKeyword symbol.type symbol.name)) := by
  unfold Target.declarationText
  cases target.qualifierKeyword symbol.qualifier symbol.name with
  | error fault =>
      rfl
  | ok qualifier =>
      cases target.typeKeyword symbol.type symbol.name <;> rfl

/-- The check of the type that a function returns. -/
def ShaderFunction.returnOutcome (target : Target)
    (function : ShaderFunction) : Except LoweringError Unit :=
  match function.returnType with
  | some type => outcome (target.typeKeyword type function.name)
  | none => .ok ()

private theorem outcome_signature (target : Target)
    (function : ShaderFunction) :
    outcome (function.signature target) =
      (do function.returnOutcome target
          outcome (function.parameters.mapM target.sizedVariableText)) := by
  unfold ShaderFunction.signature Target.signatureText
    ShaderFunction.returnOutcome
  cases function.returnType with
  | none =>
      cases function.parameters.mapM target.sizedVariableText <;> rfl
  | some type =>
      dsimp only
      cases target.typeKeyword type function.name with
      | error fault =>
          rfl
      | ok keyword =>
          cases function.parameters.mapM target.sizedVariableText <;> rfl

section Words

variable {first second : Target} (complete : second.dialect.Complete)

include complete

theorem typeKeyword_agrees (type : ShaderType) (usedBy : String) :
    ChecksAgree first.dialect (outcome (first.typeKeyword type usedBy))
      (outcome (second.typeKeyword type usedBy)) := by
  obtain ⟨word, known⟩ := Option.isSome_iff_exists.mp (complete.types type)
  unfold Target.typeKeyword
  rw [known]
  cases found : first.dialect.types type with
  | some own =>
      exact .refl _
  | none =>
      exact Or.inr ⟨_, rfl, rfl, found⟩

theorem qualifierKeyword_agrees (qualifier : Qualifier) (usedBy : String) :
    ChecksAgree first.dialect
      (outcome (first.qualifierKeyword qualifier usedBy))
      (outcome (second.qualifierKeyword qualifier usedBy)) := by
  obtain ⟨word, known⟩ :=
    Option.isSome_iff_exists.mp (complete.qualifiers qualifier)
  unfold Target.qualifierKeyword
  rw [known]
  cases found : first.dialect.qualifiers qualifier with
  | some own =>
      exact .refl _
  | none =>
      exact Or.inr ⟨_, rfl, rfl, found⟩

theorem precisionText_agrees (precision : Option Precision) :
    ChecksAgree first.dialect (outcome (first.precisionText precision))
      (outcome (second.precisionText precision)) := by
  cases precision with
  | none =>
      exact .refl _
  | some wanted =>
      obtain ⟨word, known⟩ :=
        Option.isSome_iff_exists.mp (complete.precisions wanted)
      unfold Target.precisionText
      dsimp only
      rw [known]
      cases found : first.dialect.precisions wanted with
      | some own =>
          exact .refl _
      | none =>
          exact Or.inr ⟨_, rfl, rfl, found⟩

/-- A value that is not a number or a truth value needs the keyword of its
type. -/
theorem literalText_agrees (value : Literal) :
    ChecksAgree first.dialect (outcome (first.literalText value))
      (outcome (second.literalText value)) := by
  have composite (isComposite : value.type ≠ .scalar ∧
      value.type ≠ .boolean) :
      ChecksAgree first.dialect (outcome (first.literalText value))
        (outcome (second.literalText value)) := by
    rw [outcome_literalText first isComposite,
      outcome_literalText second isComposite]
    exact (typeKeyword_agrees complete value.type "literal").bind
      fun _ => .refl _
  cases value with
  | scalar number =>
      exact .refl _
  | boolean truth =>
      exact .refl _
  | _ =>
      exact composite (by simp [Literal.type])

theorem sizedVariableText_agrees (symbol : Parameter) :
    ChecksAgree first.dialect (outcome (first.sizedVariableText symbol))
      (outcome (second.sizedVariableText symbol)) := by
  rw [outcome_sizedVariableText, outcome_sizedVariableText]
  exact typeKeyword_agrees complete symbol.type symbol.name

theorem declarationText_agrees (symbol : Symbol) :
    ChecksAgree first.dialect (outcome (first.declarationText symbol))
      (outcome (second.declarationText symbol)) := by
  rw [outcome_declarationText, outcome_declarationText]
  refine .bind ?_ fun _ => ?_
  · exact qualifierKeyword_agrees complete symbol.qualifier symbol.name
  · exact typeKeyword_agrees complete symbol.type symbol.name

theorem signature_agrees (function : ShaderFunction) :
    ChecksAgree first.dialect (outcome (function.signature first))
      (outcome (function.signature second)) := by
  rw [outcome_signature, outcome_signature]
  have returned :
      ChecksAgree first.dialect (function.returnOutcome first)
        (function.returnOutcome second) := by
    unfold ShaderFunction.returnOutcome
    cases function.returnType with
    | none =>
        exact .refl _
    | some type =>
        exact typeKeyword_agrees complete type function.name
  exact returned.bind fun _ =>
    .mapM fun symbol => sizedVariableText_agrees complete symbol

end Words

/-! ## Visits -/

section Visits

variable {first second : Target} (complete : second.dialect.Complete)
  (sameStage : first.stage = second.stage)

include complete

theorem Operation.check_agrees (locals : Locals) (position : Position)
    (node : Operation) :
    ChecksAgree first.dialect (node.check first locals position)
      (node.check second locals position) := by
  cases node with
  | declare symbol =>
      exact (ChecksAgree.refl _).bind fun _ =>
        typeKeyword_agrees complete symbol.type symbol.name
  | construct type operands =>
      exact (ChecksAgree.refl _).bind fun _ =>
        typeKeyword_agrees complete type "constructor"
  | convert source type pad =>
      exact (ChecksAgree.refl _).bind fun _ =>
        typeKeyword_agrees complete type "conversion"
  | _ =>
      exact .refl _

include sameStage

theorem Visit.check_agrees (locals : Locals) (visit : Visit) :
    ChecksAgree first.dialect (visit.check first locals)
      (visit.check second locals) := by
  cases visit with
  | parameter symbol =>
      exact .refl _
  | literal value =>
      exact literalText_agrees complete value
  | builtIn source =>
      -- The name of a built-in variable is in every dialect; whether there is
      -- such a variable depends on the stage.
      have same :
          outcome (lowerBuiltIn first source) =
            outcome (lowerBuiltIn second source) := by
        unfold lowerBuiltIn
        rw [sameStage]
        by_cases available : source.availableIn second.stage = true
        · rw [if_pos available, if_pos available]
          rfl
        · rw [if_neg available, if_neg available]
      exact Or.inl same
  | introduced symbol =>
      exact typeKeyword_agrees complete symbol.type symbol.name
  | operation position node =>
      exact node.check_agrees complete locals position
  | padding source type pad =>
      exact .refl _

end Visits

/-! ## The walk -/

section Walk

variable {first second : Target} (complete : second.dialect.Complete)
  (sameStage : first.stage = second.stage)

include complete

theorem hoistParameter_agrees (symbol : Parameter) :
    RunsAgree first.dialect Eq (hoistParameter first symbol)
      (hoistParameter second symbol) := by
  unfold hoistParameter
  by_cases array : 0 < symbol.arrayLength ∧ symbol.qualifier ≠ .constant
  · rw [if_pos array, if_pos array]
    exact .throw _
  · rw [if_neg array, if_neg array]
    refine .check_then (typeKeyword_agrees complete _ _) ?_
    refine .check_then (qualifierKeyword_agrees complete _ _) ?_
    refine .get_then fun progress progress' met => ?_
    rw [met.symbols]
    refine .bind (.check (.refl _)) fun ⟨isNew, table⟩ => ?_
    cases isNew with
    | false =>
        exact .pure rfl
    | true =>
        exact .set ⟨rfl, met.functions⟩

omit complete in
/-- A definition is added whatever its text. -/
theorem addDefinition_agrees {definition definition' : Definition}
    (same : definition.function = definition'.function) :
    RunsAgree first.dialect Eq (addDefinition definition)
      (addDefinition definition') := by
  unfold addDefinition
  refine .get_then fun progress progress' met => ?_
  have known :
      (progress.definition? definition.function.name).isSome =
        (progress'.definition? definition'.function.name).isSome := by
    have found := congrArg Option.isSome
      (met.definition? definition'.function.name)
    rw [Option.isSome_map, Option.isSome_map] at found
    rw [same, found]
  dsimp only
  rw [known]
  split
  · rw [same]
    exact .throw _
  · have functions :
        (progress.definitions ++ [definition]).map Definition.function =
          (progress'.definitions ++ [definition']).map
            Definition.function := by
      rw [List.map_append, List.map_append, met.functions]
      exact congrArg (_ ++ [·]) same
    exact .set ⟨met.symbols, functions⟩

/-- A function is hoisted alike for both targets. -/
def HoistsAgree (first second : Target) (function : ShaderFunction) :
    Prop :=
  RunsAgree first.dialect Eq (hoistFunction first function)
    (hoistFunction second function)

include sameStage

theorem perform_agrees {locals : Locals} {visit : Visit}
    (hoists : ∀ function, visit.callee? = some function →
      HoistsAgree first second function) :
    RunsAgree first.dialect Eq (visit.perform first locals)
      (visit.perform second locals) := by
  have checks := visit.check_agrees complete sameStage locals
  unfold Visit.perform
  refine .bind (.check checks) fun _ => ?_
  cases visit.stageUse? locals with
  | some symbol =>
      exact hoistParameter_agrees complete symbol
  | none =>
      cases called : visit.callee? with
      | some function =>
          exact hoists function called
      | none =>
          exact .pure rfl

/-- Visits are made alike once the functions that they call are hoisted
alike. -/
theorem performAll_agrees {locals : Locals} {visits : List Visit}
    (hoists : CalleesSatisfy (HoistsAgree first second) visits) :
    RunsAgree first.dialect Eq (performAll first locals visits)
      (performAll second locals visits) := by
  induction visits with
  | nil =>
      exact .pure rfl
  | cons visit rest inductionHypothesis =>
      rw [performAll_cons, performAll_cons]
      refine .bind ?_ fun _ => ?_
      · exact perform_agrees complete sameStage fun function called =>
          hoists.head called
      · exact inductionHypothesis hoists.tail

/-- Every function is hoisted alike. The induction runs from the callees
up. -/
theorem hoistsAgree (function : ShaderFunction) :
    HoistsAgree first second function := by
  induction function using ShaderFunction.callee_induction with
  | step function inductionHypothesis =>
      unfold HoistsAgree
      rw [hoistFunction_eq, hoistFunction_eq]
      refine .get_then fun progress progress' met => ?_
      have known := met.definition? function.name
      cases found : progress.definition? function.name with
      | some definition =>
          cases found' : progress'.definition? function.name with
          | none =>
              rw [found, found'] at known
              cases known
          | some definition' =>
              rw [found, found'] at known
              have same : definition.function = definition'.function :=
                Option.some.inj known
              dsimp only
              rw [same]
              split
              · exact .pure rfl
              · exact .throw _
      | none =>
          cases found' : progress'.definition? function.name with
          | some definition' =>
              rw [found, found'] at known
              cases known
          | none =>
              refine .bind (.check (.refl _)) fun locals => ?_
              refine .bind (.check (signature_agrees complete function))
                fun _ => .bind ?_ fun _ => ?_
              · exact performAll_agrees complete sameStage
                  (.of_bodyCallees inductionHypothesis)
              · exact addDefinition_agrees rfl

end Walk

/-! ## Whole shaders -/

section Shaders

variable {dialect complete : Dialect} (isComplete : complete.Complete)
  (shader : Shader)

include isComplete

/-- Lowering with a dialect ends like lowering with a complete one, or where a
keyword is missing. -/
private theorem lowerShader_agrees :
    RunsAgree dialect
      (fun first second => first.interface = second.interface)
      (lowerShader dialect shader) (lowerShader complete shader) := by
  have sameStage :
      (shader.target dialect).stage = (shader.target complete).stage := rfl
  have walk (locals : Locals) :
      RunsAgree dialect Eq
        (performAll (shader.target dialect) locals
          (bodyVisits 1 shader.operations))
        (performAll (shader.target complete) locals
          (bodyVisits 1 shader.operations)) :=
    performAll_agrees isComplete sameStage fun _ _ function _ =>
      hoistsAgree isComplete sameStage function
  have precision :
      ChecksAgree dialect
        (outcome ((shader.target dialect).precisionText shader.precision))
        (outcome
          ((shader.target complete).precisionText shader.precision)) :=
    precisionText_agrees isComplete shader.precision
  have declarations (symbols : List Symbol) :
      ChecksAgree dialect
        (outcome (symbols.mapM (shader.target dialect).declarationText))
        (outcome
          (symbols.mapM (shader.target complete).declarationText)) :=
    .mapM fun symbol => declarationText_agrees isComplete symbol
  unfold lowerShader
  refine .bind (.check (.refl _)) fun locals => ?_
  rw [lowerBody_eq, lowerBody_eq, bind_assoc, bind_assoc]
  refine (walk locals).bind fun _ => ?_
  rw [pure_bind, pure_bind]
  refine .check_then precision ?_
  refine .get_then fun progress progress' met => ?_
  rw [met.symbols]
  refine .check_then (declarations progress'.symbols.symbols) ?_
  have names :
      (progress.definitions.map fun known => known.function.name) =
        progress'.definitions.map fun known => known.function.name := by
    have mapped := congrArg (List.map ShaderFunction.name) met.functions
    rwa [List.map_map, List.map_map] at mapped
  refine .bind (.set ⟨met.symbols, met.functions⟩) fun _ => .pure ?_
  unfold CompiledShader.interface
  rw [names]

/-- Lowering with a dialect has the outcome of lowering with a complete one,
up to the text, or a fault that names a keyword which the dialect lacks. -/
theorem lower_agrees_or_lacks :
    (lower dialect shader).map CompiledShader.interface =
        (lower complete shader).map CompiledShader.interface ∨
      ∃ fault, lower dialect shader = .error fault ∧
        dialect.Lacks fault := by
  have shaders :
      RunsAgree dialect
        (fun first second => first.interface = second.interface)
        (lowerShader dialect shader) (lowerShader complete shader) :=
    lowerShader_agrees isComplete shader
  have ends := shaders .start .start ⟨rfl, rfl⟩
  unfold lower lowerWithEvents
  generalize (lowerShader dialect shader).run .start = end₁ at ends ⊢
  generalize (lowerShader complete shader).run .start = end₂ at ends ⊢
  cases ends with
  | ok values met =>
      exact Or.inl (congrArg Except.ok values)
  | error =>
      exact Or.inl rfl
  | lacking lacks =>
      exact Or.inr ⟨_, rfl, lacks⟩

end Shaders

/-- Choosing a dialect changes the text and nothing else. With two complete
dialects a shader is lowered to the same stage, symbols and functions, or
rejected with the same fault. What any other dialect lowers, a complete one
lowers to the same symbols and functions; where the outcomes differ, the other
dialect lacks a keyword that its fault names. -/
theorem lower_dialects_agree {complete : Dialect}
    (isComplete : complete.Complete) (shader : Shader) :
    (∀ other : Dialect, other.Complete →
      (lower other shader).map CompiledShader.interface =
        (lower complete shader).map CompiledShader.interface) ∧
    (∀ (dialect : Dialect) (compiled : CompiledShader),
      lower dialect shader = .ok compiled →
        ∃ compiled', lower complete shader = .ok compiled' ∧
          compiled'.interface = compiled.interface) ∧
    ∀ (dialect : Dialect) (fault : LoweringError),
      lower dialect shader = .error fault →
        lower complete shader = .error fault ∨ dialect.Lacks fault := by
  refine ⟨fun other otherComplete => ?_, fun dialect compiled lowered => ?_,
    fun dialect fault rejected => ?_⟩
  · rcases lower_agrees_or_lacks isComplete shader with
      same | ⟨fault, _, lacks⟩
    · exact same
    · exact absurd lacks (otherComplete.not_lacks fault)
  · rcases lower_agrees_or_lacks isComplete shader with
      same | ⟨fault, rejected, _⟩
    · rw [lowered] at same
      cases found : lower complete shader with
      | ok compiled' =>
          rw [found] at same
          exact ⟨compiled', rfl, (Except.ok.inj same).symm⟩
      | error fault =>
          rw [found] at same
          cases same
    · rw [lowered] at rejected
      cases rejected
  · rcases lower_agrees_or_lacks isComplete shader with
      same | ⟨fault', rejected', lacks⟩
    · rw [rejected] at same
      cases found : lower complete shader with
      | ok compiled =>
          rw [found] at same
          cases same
      | error fault' =>
          rw [found] at same
          cases same
          exact Or.inl rfl
    · rw [rejected] at rejected'
      cases rejected'
      exact Or.inr lacks

/-! ## A dialect with few words -/

theorem glslEs100_complete : Dialect.glslEs100.Complete where
  types := by
    intro type
    cases type <;> rfl
  qualifiers := by
    intro qualifier
    cases qualifier <;> rfl
  precisions := by
    intro precision
    cases precision <;> rfl

/-- A dialect of constant numbers, with words of its own. -/
def pocketDialect : Dialect :=
  { Dialect.glslEs100 with
    name := "pocket"
    types := KeywordTable.empty.set .scalar "real"
    qualifiers := KeywordTable.empty.set .constant "given"
    precisions := .empty
    entryPoint := "start" }

def pocketSource : String :=
  "given real gain;\n" ++
    "\nreal tone() \x7b\n  return gain;\n\x7d\n" ++
    "\nvoid shade() \x7b\n  gl_FragColor.x = tone();\n\x7d\n" ++
    "\nvoid start() \x7b\n  shade();\n  tone();\n\x7d\n"

/-- What the small dialect can say of a shader is all that there is to it. -/
theorem layeredShader_dialects :
    Dialect.glslEs100.Complete ∧ ¬ pocketDialect.Complete ∧
      ∃ compiled compiled',
        lower pocketDialect layeredShader = .ok compiled ∧
          compiled.source = pocketSource ∧
          lower .glslEs100 layeredShader = .ok compiled' ∧
          compiled'.interface = compiled.interface := by
  have incomplete : ¬ pocketDialect.Complete := by
    intro complete
    have known := complete.types .texture
    cases known
  have source :
      (lower pocketDialect layeredShader).toOption.map
        CompiledShader.source = some pocketSource := by
    decide +kernel
  cases lowered : lower pocketDialect layeredShader with
  | error fault =>
      rw [lowered] at source
      cases source
  | ok compiled =>
      rw [lowered] at source
      obtain ⟨_, transfers, _⟩ :=
        lower_dialects_agree glslEs100_complete layeredShader
      obtain ⟨compiled', lowered', same⟩ :=
        transfers pocketDialect compiled lowered
      exact ⟨glslEs100_complete, incomplete, compiled, compiled', rfl,
        Option.some.inj source, lowered', same⟩

end Shaderwright
