import Mathlib.Data.List.Forall2
import Shaderwright.Proofs.EqualFunctions
import Shaderwright.Proofs.ZeroSigns

/-!
Texts of equal trees. Trees with one canonical form are written in one way but
for the signs of their zeros, which equality does not look at. So the
definitions of two equal functions are one text exactly where the signs of
their zeros agree (`ShaderFunction.definitionText_eq_iff`).
-/

namespace Shaderwright

/-! ## Parts of texts -/

@[simp]
theorem visitZeroSigns_nil : visitZeroSigns [] = [] := by
  rfl

@[simp]
theorem visitZeroSigns_cons (visit : Visit) (rest : List Visit) :
    visitZeroSigns (visit :: rest) =
      visit.zeroSigns ++ visitZeroSigns rest := by
  rfl

@[simp]
theorem visitZeroSigns_append (first second : List Visit) :
    visitZeroSigns (first ++ second) =
      visitZeroSigns first ++ visitZeroSigns second :=
  List.flatMap_append

/-- No operation writes a zero by itself. -/
@[simp]
theorem zeroSigns_operation (position : Position) (node : Operation) :
    (Visit.operation position node).zeroSigns = [] := by
  rfl

theorem Operand.isInfix_canonical (operand : Operand) :
    operand.canonical.isInfix = operand.isInfix := by
  rw [operand.canonical_eq_relabeled, Operand.isInfix_relabeled]

theorem Operand.declared?_canonical (operand : Operand) :
    operand.canonical.declared? =
      operand.declared?.map Parameter.canonical := by
  rw [operand.canonical_eq_relabeled, Operand.declared?_relabeled]
  rfl

/-- The words of a declaration do not depend on the handle. -/
theorem Target.variableText_of_canonical_eq (target : Target)
    {first second : Parameter} (same : first.canonical = second.canonical) :
    target.variableText first = target.variableText second := by
  have words : ∀ symbol : Parameter,
      target.variableText symbol.canonical = target.variableText symbol :=
    fun symbol => rfl
  rw [← words first, same, words]

theorem Target.sizedVariableText_of_canonical_eq (target : Target)
    {first second : Parameter} (same : first.canonical = second.canonical) :
    target.sizedVariableText first = target.sizedVariableText second := by
  have words : ∀ symbol : Parameter,
      target.sizedVariableText symbol.canonical =
        target.sizedVariableText symbol := fun symbol => rfl
  rw [← words first, same, words]

theorem SignedAlike.expression {signs signs' : List Bool}
    {text text' : String} (position : Position)
    (alike : SignedAlike signs signs' text text') :
    SignedAlike signs signs' (position.expression text)
      (position.expression text') := by
  cases position with
  | statement level =>
      exact (alike.plain_append (indentation level)).append_plain ";\n"
  | value =>
      exact alike

/-- Two operands are written alike, by themselves and in parentheses. -/
structure Operand.WrittenAlike (target : Target) (first second : Operand) :
    Prop where
  isInfix : first.isInfix = second.isInfix
  text : SignedAlike (visitZeroSigns first.visits)
    (visitZeroSigns second.visits) (first.text target) (second.text target)

section Operands

variable {target : Target} {first second : Operand}
  {operands operands' : List Operand}

theorem Operand.WrittenAlike.parenthesized
    (alike : first.WrittenAlike target second) :
    SignedAlike (visitZeroSigns first.visits)
      (visitZeroSigns second.visits)
      (first.parenthesized (first.text target))
      (second.parenthesized (second.text target)) := by
  unfold Operand.parenthesized
  rw [alike.isInfix]
  split
  · exact (alike.text.plain_append "(").append_plain ")"
  · exact alike.text

theorem signedTexts_of_writtenAlike
    (alike : List.Forall₂ (Operand.WrittenAlike target) operands operands') :
    SignedTexts (visitZeroSigns (operandVisits operands))
      (visitZeroSigns (operandVisits operands'))
      (operandTexts target operands) (operandTexts target operands') := by
  induction alike with
  | nil =>
      exact .nil
  | cons head _ inductionHypothesis =>
      rw [operandVisits, operandVisits, visitZeroSigns_append,
        visitZeroSigns_append]
      exact .cons head.text inductionHypothesis

theorem signedTexts_parenthesizedAll
    (alike : List.Forall₂ (Operand.WrittenAlike target) operands operands') :
    SignedTexts (visitZeroSigns (operandVisits operands))
      (visitZeroSigns (operandVisits operands'))
      (parenthesizedAll operands (operandTexts target operands))
      (parenthesizedAll operands' (operandTexts target operands')) := by
  induction alike with
  | nil =>
      exact .nil
  | cons head _ inductionHypothesis =>
      rw [operandVisits, operandVisits, visitZeroSigns_append,
        visitZeroSigns_append]
      exact .cons head.parenthesized inductionHypothesis

/-- What stands in front of the sign of an assignment is written alike, if it
is where nothing is declared. -/
theorem signedAlike_of_target (same : first.canonical = second.canonical)
    (undeclared : first.declared? = none → second.declared? = none →
      SignedAlike (visitZeroSigns first.visits)
        (visitZeroSigns second.visits) (first.text target)
        (second.text target)) :
    SignedAlike
      (visitZeroSigns (match first.declared? with
        | some symbol => [.introduced symbol]
        | none => first.visits))
      (visitZeroSigns (match second.declared? with
        | some symbol => [.introduced symbol]
        | none => second.visits))
      (match first.declared? with
        | some symbol => resultOf (target.variableText symbol)
        | none => first.text target)
      (match second.declared? with
        | some symbol => resultOf (target.variableText symbol)
        | none => second.text target) := by
  have declares := first.declared?_canonical
  rw [same, second.declared?_canonical] at declares
  cases declared : first.declared? with
  | some symbol =>
      cases declared' : second.declared? with
      | some symbol' =>
          rw [declared, declared', Option.map_some, Option.map_some,
            Option.some.injEq] at declares
          dsimp only
          rw [target.variableText_of_canonical_eq declares.symm]
          exact .plain _
      | none =>
          rw [declared, declared'] at declares
          cases declares
  | none =>
      cases declared' : second.declared? with
      | some symbol' =>
          rw [declared, declared'] at declares
          cases declares
      | none =>
          exact undeclared declared declared'

end Operands

/-! ## Trees with one canonical form -/

section Trees

variable {target : Target} {locals locals' : List Parameter}

mutual

theorem Operand.writtenAlike : ∀ first second : Operand,
    first.canonical = second.canonical →
      (∀ visit ∈ first.visits, visit.Admissible target locals) →
      (∀ visit ∈ second.visits, visit.Admissible target locals') →
        first.WrittenAlike target second
  | .parameter symbol, second, same, _, _ => by
      cases second with
      | parameter other =>
          have named : symbol.name = other.name := by
            simpa [Operand.canonical] using
              congrArg Parameter.name (Operand.parameter.inj same)
          refine ⟨rfl, ?_⟩
          rw [Operand.text, Operand.text, named]
          exact .plain _
      | _ =>
          simp [Operand.canonical] at same
  | .literal value, second, same, admissible, admissible' => by
      cases second with
      | literal value' =>
          refine ⟨rfl, ?_⟩
          have alike := Literal.signedAlike (Operand.literal.inj same)
            (admissible _ List.mem_cons_self)
            (admissible' _ List.mem_cons_self)
          simpa [Operand.visits, Operand.text] using alike
      | _ =>
          simp [Operand.canonical] at same
  | .builtIn source, second, same, _, _ => by
      cases second with
      | builtIn source' =>
          obtain rfl := Operand.builtIn.inj same
          exact ⟨rfl, .plain _⟩
      | _ =>
          simp [Operand.canonical] at same
  | .operation node, second, same, admissible, admissible' => by
      cases second with
      | operation node' =>
          have sameNode := Operand.operation.inj same
          rw [Operand.visits] at admissible admissible'
          refine ⟨?_, Operation.signedAlike .value node node' sameNode
            admissible admissible'⟩
          rw [← Operand.isInfix_canonical, same, Operand.isInfix_canonical]
      | _ =>
          simp [Operand.canonical] at same
  | .raw text, second, same, _, _ => by
      cases second with
      | raw text' =>
          obtain rfl := Operand.raw.inj same
          exact ⟨rfl, .plain _⟩
      | _ =>
          simp [Operand.canonical] at same

/-- By induction on the first tree: its constructor is that of the second one,
and the texts are put together from parts that are written alike. -/
theorem Operation.signedAlike (position : Position) :
    ∀ first second : Operation,
      first.canonical = second.canonical →
        (∀ visit ∈ first.visits position,
          visit.Admissible target locals) →
        (∀ visit ∈ second.visits position,
          visit.Admissible target locals') →
          SignedAlike (visitZeroSigns (first.visits position))
            (visitZeroSigns (second.visits position))
            (first.text target position) (second.text target position)
  | .assign operator assigned value, second, same, admissible,
      admissible' => by
      cases second with
      | assign operator' assigned' value' =>
          simp only [Operation.canonical, Operation.assign.injEq] at same
          obtain ⟨rfl, sameTarget, sameValue⟩ := same
          simp only [Operation.visits, List.forall_mem_cons,
            List.forall_mem_append] at admissible admissible'
          have right := Operand.writtenAlike value value' sameValue
            admissible.2.2 admissible'.2.2
          have left := signedAlike_of_target sameTarget
            fun undeclared undeclared' => by
              rw [undeclared] at admissible
              rw [undeclared'] at admissible'
              exact (Operand.writtenAlike assigned assigned' sameTarget
                admissible.2.1 admissible'.2.1).text
          simp only [Operation.visits, Operation.text, visitZeroSigns_cons,
            visitZeroSigns_append, zeroSigns_operation, List.nil_append]
          exact ((((left.append_plain " ").append_plain
            operator.symbol).append_plain " ").append right.text).expression
              position
      | _ =>
          simp [Operation.canonical] at same
  | .declare symbol, second, same, _, _ => by
      cases second with
      | declare symbol' =>
          have words :=
            target.sizedVariableText_of_canonical_eq
              (Operation.declare.inj same)
          rw [Operation.text, Operation.text, words]
          exact .plain _
      | _ =>
          simp [Operation.canonical] at same
  | .arithmetic operator operands, second, same, admissible,
      admissible' => by
      cases second with
      | arithmetic operator' operands' =>
          simp only [Operation.canonical, Operation.arithmetic.injEq]
            at same
          obtain ⟨rfl, sameOperands⟩ := same
          simp only [Operation.visits, List.forall_mem_cons]
            at admissible admissible'
          have alike := operands_writtenAlike operands operands'
            sameOperands admissible.2 admissible'.2
          exact ((signedTexts_parenthesizedAll alike).intercalate
            _).expression position
      | _ =>
          simp [Operation.canonical] at same
  | .compare operator left right, second, same, admissible,
      admissible' => by
      cases second with
      | compare operator' left' right' =>
          simp only [Operation.canonical, Operation.compare.injEq] at same
          obtain ⟨rfl, sameLeft, sameRight⟩ := same
          simp only [Operation.visits, List.forall_mem_cons,
            List.forall_mem_append] at admissible admissible'
          have first := (Operand.writtenAlike left left' sameLeft
            admissible.2.1 admissible'.2.1).parenthesized
          have second := (Operand.writtenAlike right right' sameRight
            admissible.2.2 admissible'.2.2).parenthesized
          simp only [Operation.visits, Operation.text, visitZeroSigns_cons,
            visitZeroSigns_append, zeroSigns_operation, List.nil_append]
          exact ((((first.append_plain " ").append_plain
            operator.symbol).append_plain " ").append second).expression
              position
      | _ =>
          simp [Operation.canonical] at same
  | .select base suffix, second, same, admissible, admissible' => by
      cases second with
      | select base' suffix' =>
          simp only [Operation.canonical, Operation.select.injEq] at same
          obtain ⟨sameBase, rfl⟩ := same
          simp only [Operation.visits, List.forall_mem_cons]
            at admissible admissible'
          have alike := Operand.writtenAlike base base' sameBase
            admissible.2 admissible'.2
          exact (alike.parenthesized.append_plain suffix).expression
            position
      | _ =>
          simp [Operation.canonical] at same
  | .builtIn function arguments, second, same, admissible,
      admissible' => by
      cases second with
      | builtIn function' arguments' =>
          simp only [Operation.canonical, Operation.builtIn.injEq] at same
          obtain ⟨rfl, sameArguments⟩ := same
          simp only [Operation.visits, List.forall_mem_cons]
            at admissible admissible'
          have alike := operands_writtenAlike arguments arguments'
            sameArguments admissible.2 admissible'.2
          by_cases discards : function = .discard
          · -- A `discard` has no arguments, so it writes no zeros.
            subst discards
            obtain rfl : arguments = [] :=
              List.length_eq_zero_iff.mp admissible.1.1
            cases alike
            exact .plain _
          · rw [Operation.text, Operation.text, if_neg discards,
              if_neg discards]
            exact ((signedTexts_of_writtenAlike alike).callText
              _).expression position
      | _ =>
          simp [Operation.canonical] at same
  | .ifThen condition body, second, same, admissible, admissible' => by
      cases second with
      | ifThen condition' body' =>
          simp only [Operation.canonical, Operation.ifThen.injEq] at same
          obtain ⟨sameCondition, sameBody⟩ := same
          simp only [Operation.visits, List.forall_mem_cons,
            List.forall_mem_append] at admissible admissible'
          have test := (Operand.writtenAlike condition condition'
            sameCondition admissible.2.1 admissible'.2.1).text
          have inner := body_signedAlike (position.depth + 1) body body'
            sameBody admissible.2.2 admissible'.2.2
          simp only [Operation.visits, Operation.text, visitZeroSigns_cons,
            visitZeroSigns_append, zeroSigns_operation, List.nil_append]
          exact ((((test.plain_append _).append_plain _).append
            inner).append_plain _).append_plain _
      | _ =>
          simp [Operation.canonical] at same
  | .ifElse condition body alternative, second, same, admissible,
      admissible' => by
      cases second with
      | ifElse condition' body' alternative' =>
          simp only [Operation.canonical, Operation.ifElse.injEq] at same
          obtain ⟨sameCondition, sameBody, sameAlternative⟩ := same
          simp only [Operation.visits, List.forall_mem_cons,
            List.forall_mem_append] at admissible admissible'
          have test := (Operand.writtenAlike condition condition'
            sameCondition admissible.2.1 admissible'.2.1).text
          have inner := body_signedAlike (position.depth + 1) body body'
            sameBody admissible.2.2.1 admissible'.2.2.1
          have other := body_signedAlike (position.depth + 1) alternative
            alternative' sameAlternative admissible.2.2.2 admissible'.2.2.2
          have start := ((((test.plain_append (indentation position.depth ++
            "if (")).append_plain ") \x7b\n").append inner).append_plain
              (indentation position.depth)).append_plain "\x7d else \x7b\n"
          have whole := ((start.append other).append_plain
            (indentation position.depth)).append_plain "\x7d\n"
          simp only [Operation.visits, Operation.text, visitZeroSigns_cons,
            visitZeroSigns_append, zeroSigns_operation, List.nil_append,
            ← List.append_assoc]
          exact whole
      | _ =>
          simp [Operation.canonical] at same
  | .loop initial condition step body, second, same, admissible,
      admissible' => by
      cases second with
      | loop initial' condition' step' body' =>
          simp only [Operation.canonical, Operation.loop.injEq] at same
          obtain ⟨rfl, rfl, rfl, sameBody⟩ := same
          simp only [Operation.visits, List.forall_mem_cons]
            at admissible admissible'
          have inner := body_signedAlike (position.depth + 1) body body'
            sameBody admissible.2 admissible'.2
          exact ((inner.plain_append _).append_plain _).append_plain _
      | _ =>
          simp [Operation.canonical] at same
  | .returnValue value, second, same, admissible, admissible' => by
      cases second with
      | returnValue value' =>
          simp only [Operation.visits, List.forall_mem_cons]
            at admissible admissible'
          have alike := Operand.writtenAlike value value'
            (Operation.returnValue.inj same) admissible.2 admissible'.2
          exact (alike.text.plain_append _).append_plain _
      | _ =>
          simp [Operation.canonical] at same
  | .returnVoid, second, same, _, _ => by
      cases second with
      | returnVoid =>
          exact .plain _
      | _ =>
          simp [Operation.canonical] at same
  | .call function arguments, second, same, admissible, admissible' => by
      cases second with
      | call function' arguments' =>
          simp only [Operation.canonical, Operation.call.injEq] at same
          obtain ⟨sameFunction, sameArguments⟩ := same
          simp only [Operation.visits, List.forall_mem_cons]
            at admissible admissible'
          have alike := operands_writtenAlike arguments arguments'
            sameArguments admissible.2 admissible'.2
          rw [Operation.text, Operation.text,
            ShaderFunction.name_eq_of_canonical_eq sameFunction]
          exact ((signedTexts_of_writtenAlike alike).callText
            _).expression position
      | _ =>
          simp [Operation.canonical] at same
  | .construct type operands, second, same, admissible, admissible' => by
      cases second with
      | construct type' operands' =>
          simp only [Operation.canonical, Operation.construct.injEq] at same
          obtain ⟨rfl, sameOperands⟩ := same
          simp only [Operation.visits, List.forall_mem_cons]
            at admissible admissible'
          have alike := operands_writtenAlike operands operands'
            sameOperands admissible.2 admissible'.2
          exact ((signedTexts_of_writtenAlike alike).callText
            _).expression position
      | _ =>
          simp [Operation.canonical] at same
  | .convert source type pad, second, same, admissible, admissible' => by
      cases second with
      | convert source' type' pad' =>
          simp only [Operation.canonical, Operation.convert.injEq] at same
          obtain ⟨sameSource, rfl, samePad⟩ := same
          simp only [Operation.visits, List.forall_mem_cons,
            List.forall_mem_append] at admissible admissible'
          have alike := Operand.writtenAlike source source' sameSource
            admissible.2.1 admissible'.2.1
          have padding := paddingTexts_signedTexts sameSource samePad
            admissible.1.1 admissible.2.2.1
          simp only [Operation.visits, Operation.text, visitZeroSigns_cons,
            visitZeroSigns_append, visitZeroSigns_nil, zeroSigns_operation,
            List.nil_append, List.append_nil]
          exact ((SignedTexts.cons alike.text padding).callText
            _).expression position
      | _ =>
          simp [Operation.canonical] at same

theorem operands_writtenAlike : ∀ operands operands' : List Operand,
    canonicalOperands operands = canonicalOperands operands' →
      (∀ visit ∈ operandVisits operands, visit.Admissible target locals) →
      (∀ visit ∈ operandVisits operands',
        visit.Admissible target locals') →
        List.Forall₂ (Operand.WrittenAlike target) operands operands'
  | [], operands', same, _, _ => by
      cases operands' with
      | nil =>
          exact .nil
      | cons operand' rest' =>
          cases same
  | operand :: rest, operands', same, admissible, admissible' => by
      cases operands' with
      | nil =>
          cases same
      | cons operand' rest' =>
          simp only [canonicalOperands, List.cons.injEq] at same
          simp only [operandVisits, List.forall_mem_append]
            at admissible admissible'
          exact .cons
            (Operand.writtenAlike operand operand' same.1 admissible.1
              admissible'.1)
            (operands_writtenAlike rest rest' same.2 admissible.2
              admissible'.2)

theorem body_signedAlike (level : Nat) : ∀ body body' : List Operation,
    canonicalBody body = canonicalBody body' →
      (∀ visit ∈ bodyVisits level body, visit.Admissible target locals) →
      (∀ visit ∈ bodyVisits level body',
        visit.Admissible target locals') →
        SignedAlike (visitZeroSigns (bodyVisits level body))
          (visitZeroSigns (bodyVisits level body'))
          (bodyText target level body) (bodyText target level body')
  | [], body', same, _, _ => by
      cases body' with
      | nil =>
          exact .plain _
      | cons operation' rest' =>
          cases same
  | operation :: rest, body', same, admissible, admissible' => by
      cases body' with
      | nil =>
          cases same
      | cons operation' rest' =>
          simp only [canonicalBody, List.cons.injEq] at same
          simp only [bodyVisits, List.forall_mem_append]
            at admissible admissible'
          have first := Operation.signedAlike (.statement level) operation
            operation' same.1 admissible.1 admissible'.1
          have later := body_signedAlike level rest rest' same.2
            admissible.2 admissible'.2
          simp only [bodyVisits, visitZeroSigns_append]
          exact first.append later

end

end Trees

/-! ## Functions with one canonical form -/

/-- The signs of the zeros in a body, in the order of the text. -/
def Scope.zeroSigns (scope : Scope) : List Bool :=
  visitZeroSigns scope.visits

section Functions

variable {target : Target} {first second : ShaderFunction}

theorem ShaderFunction.signature_canonical (function : ShaderFunction) :
    function.canonical.signature target = function.signature target := by
  have words : target.sizedVariableText ∘ Parameter.canonical =
      target.sizedVariableText := rfl
  simp [ShaderFunction.signature, Target.signatureText, words]

/-- The definitions of equal functions are one text exactly where the signs of
their zeros agree. -/
theorem ShaderFunction.definitionText_eq_iff
    (same : first.canonical = second.canonical)
    (acceptable : first.scope.Acceptable target) :
    first.definitionText target = second.definitionText target ↔
      first.scope.zeroSigns = second.scope.zeroSigns := by
  have acceptable' :=
    acceptable.of_canonical_eq (ShaderFunction.canonical_scope_eq same)
  have bodies : canonicalBody first.body = canonicalBody second.body := by
    rw [← ShaderFunction.body_canonical, same,
      ShaderFunction.body_canonical]
  have signatures : first.signature target = second.signature target := by
    rw [← first.signature_canonical, same, second.signature_canonical]
  have alike := body_signedAlike 1 first.body second.body bodies
    acceptable.visits acceptable'.visits
  unfold ShaderFunction.definitionText
  rw [signatures]
  exact ((alike.plain_append _).append_plain _).text_eq_iff

end Functions

end Shaderwright
