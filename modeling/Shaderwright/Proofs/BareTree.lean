import Shaderwright.Proofs.CanonicalWalk
import Shaderwright.Proofs.WrittenText

/-!
Bare trees. The bare form of a tree forgets the handles and keeps everything
else, bit for bit. The text, the checks and the local variables of a tree are
those of its bare form, and so is its being free of NaN.
-/

namespace Shaderwright

/-! ## Bare forms -/

/-- The relabelling that forgets the handles. -/
def Relabeling.bare : Relabeling where
  parameter := Parameter.canonical
  number := id
  handle := fun _ => 0

/-- A function without the handles. -/
abbrev ShaderFunction.bare (function : ShaderFunction) : ShaderFunction :=
  function.relabeled .bare

/-- A visit without the handles. -/
abbrev Visit.bare (visit : Visit) : Visit :=
  visit.relabeled .bare

/-- A shader without the handles. -/
abbrev Shader.bare (shader : Shader) : Shader :=
  shader.relabeled .bare

/-- Local variables without the handles. -/
def Locals.bare (locals : Locals) : Locals :=
  ⟨locals.parameters.map Parameter.canonical⟩

theorem Relabeling.bare_keepsDeclarations :
    Relabeling.bare.KeepsDeclarations := by
  intro symbol
  rfl

/-- The canonical form is the canonical form of the bare tree. -/
theorem ShaderFunction.canonical_bare (function : ShaderFunction) :
    function.bare.canonical = function.canonical := by
  rw [ShaderFunction.canonical_eq_relabeled, ShaderFunction.bare,
    ShaderFunction.relabeled_relabeled,
    ShaderFunction.canonical_eq_relabeled]
  rfl

/-! ## NaN -/

section NaN

variable {labels : Relabeling}

theorem Visit.numbers_relabeled (visit : Visit) :
    (visit.relabeled labels).numbers = visit.numbers.map labels.number := by
  cases visit <;> simp [Visit.relabeled, Visit.numbers]

/-- A relabelling that keeps the numbers keeps a body free of NaN. -/
theorem bodyNaNFree_relabeled_iff (keeps : labels.number = id)
    (body : List Operation) :
    BodyNaNFree (relabeledBody labels body) ↔ BodyNaNFree body := by
  unfold BodyNaNFree
  rw [bodyVisits_relabeled, List.forall_mem_map]
  simp only [Visit.numbers_relabeled, keeps, List.map_id]

theorem ShaderFunction.naNFree_relabeled_iff (keeps : labels.number = id)
    (function : ShaderFunction) :
    (function.relabeled labels).NaNFree ↔ function.NaNFree := by
  have bodies := bodyNaNFree_relabeled_iff keeps
  constructor
  · rintro ⟨own, called⟩
    rw [ShaderFunction.body_relabeled] at own called
    refine ⟨(bodies _).mp own, fun callee below => ?_⟩
    have free :=
      called (callee.relabeled labels)
        ((calledFrom_relabeled_iff labels).mpr ⟨callee, below, rfl⟩)
    rw [ShaderFunction.body_relabeled] at free
    exact (bodies _).mp free
  · rintro ⟨own, called⟩
    constructor
    · rw [ShaderFunction.body_relabeled]
      exact (bodies _).mpr own
    · intro callee below
      rw [ShaderFunction.body_relabeled] at below
      obtain ⟨original, reached, rfl⟩ :=
        (calledFrom_relabeled_iff labels).mp below
      rw [ShaderFunction.body_relabeled]
      exact (bodies _).mpr (called original reached)

end NaN

/-! ## Text -/

section Text

variable (target : Target)

private theorem literal_bare (value : Literal) :
    value.mapNumbers Relabeling.bare.number = value :=
  value.mapNumbers_id

private theorem conversionPadding_bare (source : Operand)
    (type : ShaderType) :
    conversionPadding (source.relabeled .bare) type =
      conversionPadding source type := by
  unfold conversionPadding missingComponents? Operand.components?
  rw [Relabeling.bare_keepsDeclarations.operandType?]

private theorem paddingTexts_bare (source : Operand) (type : ShaderType)
    (pad : Binary32) :
    paddingTexts (source.relabeled .bare) type
        (Relabeling.bare.number pad) =
      paddingTexts source type pad := by
  unfold paddingTexts
  rw [conversionPadding_bare]
  rfl

private theorem parenthesized_bare (operand : Operand) (text : String) :
    (operand.relabeled .bare).parenthesized text =
      operand.parenthesized text := by
  unfold Operand.parenthesized
  rw [Operand.isInfix_relabeled]

private theorem parenthesizedAll_bare (operands : List Operand)
    (texts : List String) :
    parenthesizedAll (relabeledOperands .bare operands) texts =
      parenthesizedAll operands texts := by
  induction operands generalizing texts with
  | nil =>
      rfl
  | cons operand rest inductionHypothesis =>
      cases texts with
      | nil =>
          simp [relabeledOperands, parenthesizedAll]
      | cons text others =>
          simp [relabeledOperands, parenthesizedAll, parenthesized_bare,
            inductionHypothesis]

mutual

private theorem operandText_bare : ∀ operand : Operand,
    (operand.relabeled .bare).text target = operand.text target
  | .parameter _ => by
      simp [Operand.relabeled, Operand.text, Relabeling.bare]
  | .literal value => by
      rw [Operand.relabeled, literal_bare]
  | .builtIn _ | .raw _ => by
      simp [Operand.relabeled]
  | .operation node => by
      simp [Operand.relabeled, Operand.text,
        operationText_bare .value node]

private theorem operationText_bare (position : Position) :
    ∀ node : Operation,
      (node.relabeled .bare).text target position =
        node.text target position
  | .assign operator assigned value => by
      have declared := Operand.declared?_relabeled .bare assigned
      cases found : assigned.declared? with
      | some symbol =>
          have written :
              target.variableText (Relabeling.bare.parameter symbol) =
                target.variableText symbol := rfl
          rw [found, Option.map_some] at declared
          simp [Operation.relabeled, Operation.text, declared, found,
            written, operandText_bare value]
      | none =>
          rw [found, Option.map_none] at declared
          simp [Operation.relabeled, Operation.text, declared, found,
            operandText_bare assigned, operandText_bare value]
  | .declare symbol => by
      have written :
          target.sizedVariableText (Relabeling.bare.parameter symbol) =
            target.sizedVariableText symbol := rfl
      simp [Operation.relabeled, Operation.text, written]
  | .arithmetic operator operands => by
      simp [Operation.relabeled, Operation.text, parenthesizedAll_bare,
        operandTexts_bare operands]
  | .compare operator left right => by
      simp [Operation.relabeled, Operation.text, parenthesized_bare,
        operandText_bare left, operandText_bare right]
  | .select base suffix => by
      simp [Operation.relabeled, Operation.text, parenthesized_bare,
        operandText_bare base]
  | .builtIn _ operands | .call _ operands | .construct _ operands => by
      simp [Operation.relabeled, Operation.text,
        operandTexts_bare operands]
  | .ifThen condition body => by
      simp [Operation.relabeled, Operation.text, operandText_bare condition,
        bodyText_bare _ body]
  | .ifElse condition body alternative => by
      simp [Operation.relabeled, Operation.text, operandText_bare condition,
        bodyText_bare _ body, bodyText_bare _ alternative]
  | .loop initial condition step body => by
      simp [Operation.relabeled, Operation.text, bodyText_bare _ body]
  | .returnValue value => by
      simp [Operation.relabeled, Operation.text, operandText_bare value]
  | .returnVoid => by
      simp [Operation.relabeled]
  | .convert source type pad => by
      simp [Operation.relabeled, Operation.text, operandText_bare source,
        paddingTexts_bare]

private theorem operandTexts_bare : ∀ operands : List Operand,
    operandTexts target (relabeledOperands .bare operands) =
      operandTexts target operands
  | [] => by
      simp [relabeledOperands]
  | operand :: rest => by
      simp [relabeledOperands, operandTexts, operandText_bare operand,
        operandTexts_bare rest]

/-- The text of a body is the text of its bare form. -/
theorem bodyText_bare (level : Nat) : ∀ body : List Operation,
    bodyText target level (relabeledBody .bare body) =
      bodyText target level body
  | [] => by
      simp [relabeledBody]
  | operation :: rest => by
      simp [relabeledBody, bodyText,
        operationText_bare (.statement level) operation,
        bodyText_bare level rest]

end

theorem ShaderFunction.signature_bare (function : ShaderFunction) :
    function.bare.signature target = function.signature target := by
  have written (symbols : List Parameter) :
      (symbols.map Relabeling.bare.parameter).mapM
          target.sizedVariableText =
        symbols.mapM target.sizedVariableText := by
    induction symbols with
    | nil =>
        rfl
    | cons symbol rest inductionHypothesis =>
        have same :
            target.sizedVariableText (Relabeling.bare.parameter symbol) =
              target.sizedVariableText symbol := rfl
        rw [List.map_cons, List.mapM_cons, List.mapM_cons, same,
          inductionHypothesis]
  simp [ShaderFunction.signature, Target.signatureText, written]

theorem ShaderFunction.definitionText_bare (function : ShaderFunction) :
    function.bare.definitionText target =
      function.definitionText target := by
  rw [ShaderFunction.definitionText, ShaderFunction.definitionText,
    ShaderFunction.signature_bare, ShaderFunction.body_relabeled,
    bodyText_bare]

end Text

/-! ## Local variables -/

namespace Locals

theorem find?_bare (locals : Locals) (name : String) :
    locals.bare.find? name =
      (locals.find? name).map Parameter.canonical := by
  unfold find? bare
  rw [List.find?_map]
  rfl

theorem checkSame_canonical (known symbol : Parameter) :
    checkSame known.canonical symbol.canonical = checkSame known symbol := by
  unfold checkSame
  rw [Parameter.equals_eq_declaredAlike, Parameter.equals_eq_declaredAlike]
  rfl

theorem isLocal_bare (locals : Locals) (symbol : Parameter) :
    locals.bare.isLocal symbol.canonical = locals.isLocal symbol := by
  unfold isLocal
  rw [Parameter.name_canonical, find?_bare]
  cases locals.find? symbol.name with
  | none =>
      rfl
  | some known =>
      rw [Option.map_some]
      dsimp only
      rw [checkSame_canonical]

theorem insert_bare (locals : Locals) (symbol : Parameter) :
    locals.bare.insert symbol.canonical =
      (locals.insert symbol).map Locals.bare := by
  unfold insert
  rw [Parameter.name_canonical, find?_bare]
  cases locals.find? symbol.name with
  | none =>
      simp [bare, Except.map]
  | some known =>
      simp only [Option.map_some, checkSame_canonical]
      cases checkSame known symbol <;> rfl

/-- Declarations without handles give local variables without handles. -/
theorem ofDeclarations_bare (declarations : List Parameter) :
    ofDeclarations (declarations.map Parameter.canonical) =
      (ofDeclarations declarations).map Locals.bare := by
  have folded (locals : Locals) :
      (declarations.map Parameter.canonical).foldlM insert locals.bare =
        (declarations.foldlM insert locals).map Locals.bare := by
    induction declarations generalizing locals with
    | nil =>
        rfl
    | cons symbol rest inductionHypothesis =>
        rw [List.map_cons, List.foldlM_cons, List.foldlM_cons, insert_bare]
        cases locals.insert symbol with
        | error fault =>
            rfl
        | ok next =>
            exact inductionHypothesis next
  exact folded empty

theorem ofBody_bare (parameters : List Parameter) (body : List Operation) :
    ofBody (parameters.map Parameter.canonical) (relabeledBody .bare body) =
      (ofBody parameters body).map Locals.bare := by
  unfold ofBody
  rw [← ofDeclarations_bare, List.map_append, bodyDeclarations_relabeled]
  rfl

end Locals

/-! ## Checks -/

section Checks

variable (target : Target) (locals : Locals)

private theorem selectionRoot_relabeled (labels : Relabeling)
    (operand : Operand) :
    (operand.relabeled labels).selectionRoot =
      operand.selectionRoot.relabeled labels := by
  fun_induction Operand.selectionRoot operand with
  | case1 base suffix inductionHypothesis =>
      simpa [Operand.relabeled, Operation.relabeled, Operand.selectionRoot]
        using inductionHypothesis
  | case2 other notSelection =>
      cases other with
      | operation node =>
          cases node <;>
            simp_all [Operand.relabeled, Operation.relabeled,
              Operand.selectionRoot]
      | _ =>
          simp [Operand.relabeled, Operand.selectionRoot]

private theorem checkTarget_bare (assigned : Operand) :
    checkTarget locals.bare (assigned.relabeled .bare) =
      checkTarget locals assigned := by
  unfold checkTarget
  rw [selectionRoot_relabeled]
  cases assigned.selectionRoot with
  | parameter symbol =>
      simp only [Operand.relabeled, Relabeling.bare, Locals.isLocal_bare]
      rfl
  | operation node =>
      cases node <;> simp [Operand.relabeled, Operation.relabeled]
  | _ =>
      simp [Operand.relabeled]

private theorem checkComponents_bare (type : ShaderType)
    (operands : List Operand) :
    checkComponents type (relabeledOperands .bare operands) =
      checkComponents type operands := by
  unfold checkComponents
  rw [Relabeling.bare_keepsDeclarations.operandComponentCounts?,
    length_relabeledOperands]

private theorem operationCheck_bare (position : Position)
    (node : Operation) :
    (node.relabeled .bare).check target locals.bare position =
      node.check target locals position := by
  cases node with
  | assign operator assigned value =>
      simp [Operation.relabeled, Operation.check, checkTarget_bare]
  | declare symbol =>
      simp [Operation.relabeled, Operation.check, Relabeling.bare]
  | construct type operands =>
      simp [Operation.relabeled, Operation.check, checkComponents_bare]
  | convert source type pad =>
      simp [Operation.relabeled, Operation.check, conversionPadding_bare]
  | _ =>
      simp [Operation.relabeled, Operation.check]

/-- A visit without handles is checked like the visit. -/
theorem Visit.check_bare (visit : Visit) :
    visit.bare.check target locals.bare = visit.check target locals := by
  cases visit with
  | parameter symbol =>
      simp [Visit.bare, Visit.relabeled, Visit.check, Relabeling.bare,
        Locals.isLocal_bare]
  | literal value =>
      rw [Visit.bare, Visit.relabeled, literal_bare]
      rfl
  | builtIn source =>
      rfl
  | introduced symbol =>
      rfl
  | operation position node =>
      exact operationCheck_bare target locals position node
  | padding source type pad =>
      rw [Visit.bare, Visit.relabeled, Visit.check, Visit.check,
        paddingTexts_bare]

theorem Visit.stageUse?_bare (visit : Visit) :
    visit.bare.stageUse? locals.bare =
      (visit.stageUse? locals).map Parameter.canonical := by
  cases visit with
  | parameter symbol =>
      simp only [Visit.bare, Visit.relabeled, Visit.stageUse?,
        Relabeling.bare, Parameter.name_canonical, Locals.find?_bare]
      cases locals.find? symbol.name <;> rfl
  | _ =>
      rfl

end Checks

end Shaderwright
