import Shaderwright.Proofs.Expression.Written
import Shaderwright.Proofs.SourceText

/-!
Lowered operands keep their structure. The text of an operand, cut into tokens
and read by the grammar, gives the tree of the operand and no other one, since
parentheses stand wherever a part would be regrouped.
-/

namespace Shaderwright

open Expression

/-! ## Trees of operands -/

namespace Target

/-- The keyword of a type, where there is one. -/
def typeWord (target : Target) (type : ShaderType) : String :=
  (target.dialect.types type).getD ""

/-- A literal is a number, a truth value or the call of a constructor. -/
def literalTree (target : Target) : Literal → Tree
  | .scalar value => numberTree value
  | .boolean value => .boolean value
  | value =>
      .call (target.typeWord value.type) (value.components.map numberTree)

end Target

/-- A chain of operands groups to the left. -/
def chainTree (operator : ArithmeticOperator) : List Tree → Tree
  | [] => .call "" []
  | first :: rest => rest.foldl (.binary (.arithmetic operator)) first

mutual

/-- The expression that an operand stands for. -/
def Operand.tree (target : Target) : Operand → Tree
  | .parameter symbol => .variable symbol.name
  | .literal value => target.literalTree value
  | .builtIn source =>
      .variable (target.dialect.builtInName source target.stage)
  | .operation node => node.tree target
  | .raw _ => .call "" []

/-- The expression that an operation stands for. A statement is none. -/
def Operation.tree (target : Target) : Operation → Tree
  | .assign operator assigned value =>
      .assign operator (assigned.tree target) (value.tree target)
  | .arithmetic operator operands =>
      chainTree operator (operandTrees target operands)
  | .compare operator left right =>
      .binary (.comparison operator) (left.tree target) (right.tree target)
  | .select base suffix =>
      (suffixAccesses suffix).foldl Access.apply (base.tree target)
  | .builtIn function arguments =>
      .call (target.dialect.functionName function)
        (operandTrees target arguments)
  | .call function arguments =>
      .call function.name (operandTrees target arguments)
  | .construct type operands =>
      .call (target.typeWord type) (operandTrees target operands)
  | .convert source type pad =>
      .call (target.typeWord type)
        (source.tree target ::
          List.replicate (resultOf (conversionPadding source type))
            (numberTree pad))
  | .declare _ | .ifThen .. | .ifElse .. | .loop .. | .returnValue _
  | .returnVoid => .call "" []

/-- The expressions of a list of operands. -/
def operandTrees (target : Target) : List Operand → List Tree
  | [] => []
  | operand :: rest => operand.tree target :: operandTrees target rest

end

/-! ## Legible operands -/

/-- The words of a dialect that stand in expressions are names, and those of
its types can be called. -/
structure Dialect.Legible (dialect : Dialect) : Prop where
  types : ∀ type word, dialect.types type = some word → IsCallable word
  builtIns : ∀ source stage, IsName (dialect.builtInName source stage)
  textureSample : IsName dialect.textureSample

/-- A suffix that is put together from selections. -/
def IsSuffix (suffix : String) : Prop :=
  ∃ accesses : List Access,
    (∀ access ∈ accesses, access.Legible) ∧
      suffix = String.join (accesses.map Access.text)

/-- A scalar or boolean literal, from which nothing can be selected. -/
def Operand.IsBare : Operand → Prop
  | .literal (.scalar _) => True
  | .literal (.boolean _) => True
  | _ => False

mutual

/-- What can be read back: there is no text that is taken over and no
declaration, names are names, and suffixes are selections. -/
def Operand.Legible : Operand → Prop
  | .parameter symbol => IsName symbol.name
  | .literal _ => True
  | .builtIn _ => True
  | .operation node => node.Legible
  | .raw _ => False

def Operation.Legible : Operation → Prop
  | .assign _ assigned value => assigned.Legible ∧ value.Legible
  | .declare _ => False
  | .arithmetic _ operands => OperandsLegible operands
  | .compare _ left right => left.Legible ∧ right.Legible
  | .select base suffix => base.Legible ∧ ¬ base.IsBare ∧ IsSuffix suffix
  | .builtIn _ arguments => OperandsLegible arguments
  | .call function arguments =>
      IsName function.name ∧ OperandsLegible arguments
  | .construct _ operands => OperandsLegible operands
  | .convert source _ _ => source.Legible
  | .ifThen .. | .ifElse .. | .loop .. | .returnValue _ | .returnVoid =>
      True

/-- All operands of a list are legible. -/
def OperandsLegible : List Operand → Prop
  | [] => True
  | operand :: rest => operand.Legible ∧ OperandsLegible rest

end

/-! ## Operands and their texts -/

/-- How the text of an operand is read: as its tree wherever an expression is
wanted, as an operand unless it is written with an infix operator, and as the
base of a selection unless it is bare. -/
structure Operand.Preserved (target : Target) (operand : Operand) :
    Prop where
  whole : Written Closes .assignment (operand.text target).toList
    (operand.tree target)
  part : operand.isInfix = false →
    Written Closes .unary (operand.text target).toList
      (operand.tree target)
  base : operand.isInfix = false → ¬ operand.IsBare →
    Written Selects .access (operand.text target).toList
      (operand.tree target)

section Preserved

variable {target : Target} {operand : Operand}

theorem Operand.Preserved.of_base
    (written : Written Selects .access (operand.text target).toList
      (operand.tree target)) : operand.Preserved target where
  whole := written.operand.loosen (by decide)
  part := fun _ => written.operand
  base := fun _ _ => written

theorem Operand.Preserved.of_bare (bare : operand.IsBare)
    (written : Written Closes .unary (operand.text target).toList
      (operand.tree target)) : operand.Preserved target where
  whole := written.loosen (by decide)
  part := fun _ => written
  base := fun _ notBare => absurd bare notBare

theorem Operand.Preserved.of_operator (isInfix : operand.isInfix = true)
    (written : Written Closes .assignment (operand.text target).toList
      (operand.tree target)) : operand.Preserved target where
  whole := written
  part := fun notInfix => by
    rw [isInfix] at notInfix
    cases notInfix
  base := fun notInfix => by
    rw [isInfix] at notInfix
    cases notInfix

/-- As a part of an operator every operand can be read, since infix operands
stand in parentheses. -/
theorem Operand.Preserved.parenthesized
    (preserved : operand.Preserved target) :
    Written Closes .unary
      (operand.parenthesized (operand.text target)).toList
      (operand.tree target) := by
  unfold Operand.parenthesized
  by_cases isInfix : operand.isInfix = true
  · rw [if_pos isInfix]
    simpa using (written_group preserved.whole).operand
  · rw [if_neg isInfix]
    exact preserved.part (by simpa using isInfix)

theorem Operand.Preserved.parenthesizedBase
    (preserved : operand.Preserved target) (notBare : ¬ operand.IsBare) :
    Written Selects .access
      (operand.parenthesized (operand.text target)).toList
      (operand.tree target) := by
  unfold Operand.parenthesized
  by_cases isInfix : operand.isInfix = true
  · rw [if_pos isInfix]
    simpa using written_group preserved.whole
  · rw [if_neg isInfix]
    exact preserved.base (by simpa using isInfix) notBare

end Preserved

/-! ## Lists of operands -/

theorem operandTrees_eq_map (target : Target) (operands : List Operand) :
    operandTrees target operands =
      operands.map (Operand.tree target) := by
  induction operands with
  | nil =>
      rfl
  | cons operand rest inductionHypothesis =>
      rw [operandTrees, inductionHypothesis, List.map_cons]

theorem parenthesizedAll_eq_map (target : Target)
    (operands : List Operand) :
    parenthesizedAll operands (operandTexts target operands) =
      operands.map fun operand =>
        operand.parenthesized (operand.text target) := by
  induction operands with
  | nil =>
      rfl
  | cons operand rest inductionHypothesis =>
      rw [operandTexts, parenthesizedAll, inductionHypothesis,
        List.map_cons]

section Lists

variable {target : Target} {operands : List Operand}

theorem written_operandCall {name : String} (callable : IsCallable name)
    (preserved : ∀ operand ∈ operands, operand.Preserved target) :
    Written Selects .access
      (callText name (operandTexts target operands)).toList
      (.call name (operandTrees target operands)) := by
  have each :
      ∀ part ∈ operands.map fun operand =>
          (operand.text target, operand.tree target),
        Written Closes .assignment part.1.toList part.2 := by
    intro part member
    obtain ⟨operand, inList, rfl⟩ := List.mem_map.mp member
    exact (preserved operand inList).whole
  have called := written_call callable each
  rw [operandTexts_eq_map, operandTrees_eq_map]
  simpa [Function.comp_def] using called

/-- A chain of two operands or more is read as grouped to the left. -/
theorem written_operandChain (operator : ArithmeticOperator)
    (nonempty : operands ≠ [])
    (preserved : ∀ operand ∈ operands, operand.Preserved target) :
    Written Closes .assignment
      ((" " ++ operator.symbol ++ " ").intercalate
        (parenthesizedAll operands (operandTexts target operands))).toList
      (chainTree operator (operandTrees target operands)) := by
  rw [parenthesizedAll_eq_map, operandTrees_eq_map]
  cases operands with
  | nil =>
      exact absurd rfl nonempty
  | cons first rest =>
      have each :
          ∀ part ∈ rest.map fun operand =>
              (operand.parenthesized (operand.text target),
                operand.tree target),
            Written Closes .unary part.1.toList part.2 := by
        intro part member
        obtain ⟨operand, inRest, rfl⟩ := List.mem_map.mp member
        exact (preserved operand
          (List.mem_cons_of_mem _ inRest)).parenthesized
      have tight :
          Level.unary.rank ≤
            (BinaryOperator.arithmetic operator).level.tighter.rank := by
        cases operator <;> decide
      have unaryTighter :
          Level.unary.rank ≤
            (BinaryOperator.arithmetic operator).level.rank :=
        Nat.le_trans tight (Level.rank_tighter_le _)
      have firstWritten :=
        ((preserved first (List.mem_cons_self ..)).parenthesized).loosen
          unaryTighter
      have chain := written_chain tight firstWritten each
      have loosest :
          (BinaryOperator.arithmetic operator).level.rank ≤
            Level.assignment.rank := by
        cases operator <;> decide
      simpa [chainTree, Function.comp_def, BinaryOperator.symbol] using
        chain.loosen loosest

end Lists

/-! ## Words and numbers -/

theorem eq_ok_resultOf {α : Type} [Inhabited α]
    {result : Except LoweringError α}
    (passes : outcome result = .ok ()) : result = .ok (resultOf result) := by
  cases result with
  | ok value =>
      rfl
  | error fault =>
      cases passes

section Words

variable {target : Target} {type : ShaderType} {usedBy : String}

theorem resultOf_typeKeyword
    (passes : outcome (target.typeKeyword type usedBy) = .ok ()) :
    resultOf (target.typeKeyword type usedBy) = target.typeWord type := by
  have mapped := typeKeyword_eq_ok_iff.mp (eq_ok_resultOf passes)
  rw [Target.typeWord, mapped]
  rfl

theorem resultOf_lowerBuiltIn {source : BuiltInVariable}
    (passes : outcome (lowerBuiltIn target source) = .ok ()) :
    resultOf (lowerBuiltIn target source) =
      target.dialect.builtInName source target.stage := by
  have written := eq_ok_resultOf passes
  generalize resultOf (lowerBuiltIn target source) = text at written
  unfold lowerBuiltIn at written
  split at written
  · exact (Except.ok.inj written).symm
  · cases written

theorem functionName_of_ne {function : BuiltInFunction}
    (notSampling : function ≠ .texture2D) :
    target.dialect.functionName function = function.keyword := by
  cases function <;> first
    | rfl
    | exact absurd rfl notSampling

/-- A literal with several components is written as the call of its
constructor. -/
theorem resultOf_literalText {value : Literal}
    (composite : value.type ≠ .scalar ∧ value.type ≠ .boolean)
    (passes : outcome (target.literalText value) = .ok ()) :
    outcome (target.typeKeyword value.type "literal") = .ok () ∧
      ∃ texts, value.components.mapM numberText = .ok texts ∧
        resultOf (target.literalText value) =
          callText (target.typeWord value.type) texts := by
  rw [literalText_of_composite target composite] at passes ⊢
  cases typed : target.typeKeyword value.type "literal" with
  | error fault =>
      rw [typed] at passes
      cases passes
  | ok keyword =>
      cases numbers : value.components.mapM numberText with
      | error fault =>
          rw [typed, numbers] at passes
          cases passes
      | ok texts =>
          have mapped := typeKeyword_eq_ok_iff.mp typed
          refine ⟨rfl, texts, rfl, ?_⟩
          rw [Target.typeWord, mapped]
          rfl

theorem callable_typeWord (legible : target.dialect.Legible)
    (passes : outcome (target.typeKeyword type usedBy) = .ok ()) :
    IsCallable (target.typeWord type) := by
  have mapped := typeKeyword_eq_ok_iff.mp (eq_ok_resultOf passes)
  rw [← resultOf_typeKeyword passes]
  exact legible.types type _ mapped

theorem numberTexts_eq_map {numbers : List Binary32}
    {texts : List String} (written : numbers.mapM numberText = .ok texts) :
    texts = numbers.map (fun number => resultOf (numberText number)) ∧
      ∀ number ∈ numbers,
        numberText number = .ok (resultOf (numberText number)) := by
  have each := forall₂_of_mapM written
  clear written
  induction each with
  | nil =>
      exact ⟨rfl, by simp⟩
  | @cons number text _ _ first _ inductionHypothesis =>
      obtain ⟨texts, others⟩ := inductionHypothesis
      have result : text = resultOf (numberText number) := by
        rw [first]
        rfl
      refine ⟨by rw [List.map_cons, ← result, ← texts], ?_⟩
      intro other member
      rcases List.mem_cons.mp member with rfl | inRest
      · rw [first]
        rfl
      · exact others other inRest

theorem written_numberCall {name : String} (callable : IsCallable name)
    {parts : List (String × Tree)} {numbers : List Binary32}
    {texts : List String}
    (each : ∀ part ∈ parts,
      Written Closes .assignment part.1.toList part.2)
    (written : numbers.mapM numberText = .ok texts) :
    Written Selects .access
      (callText name (parts.map Prod.fst ++ texts)).toList
      (.call name
        (parts.map Prod.snd ++ numbers.map numberTree)) := by
  obtain ⟨rfl, finite⟩ := numberTexts_eq_map written
  have eachPart :
      ∀ part ∈ parts ++ numbers.map fun number =>
          (resultOf (numberText number), numberTree number),
        Written Closes .assignment part.1.toList part.2 := by
    intro part member
    rcases List.mem_append.mp member with early | late
    · exact each part early
    · obtain ⟨number, inList, rfl⟩ := List.mem_map.mp late
      exact (written_number (finite number inList)).loosen (by decide)
  have called := written_call callable eachPart
  simpa [Function.comp_def] using called

end Words

/-! ## Operands and operations -/

section Operands

variable {target : Target} {locals : Locals}

private theorem composite_preserved (legible : target.dialect.Legible)
    {value : Literal}
    (composite : value.type ≠ .scalar ∧ value.type ≠ .boolean)
    (passes : outcome (target.literalText value) = .ok ()) :
    Written Selects .access (resultOf (target.literalText value)).toList
      (.call (target.typeWord value.type)
        (value.components.map numberTree)) := by
  obtain ⟨typed, texts, numbers, written⟩ :=
    resultOf_literalText composite passes
  have called := written_numberCall (callable_typeWord legible typed)
    (fun part (impossible : part ∈ []) => nomatch impossible) numbers
  rw [written]
  exact called

private theorem literal_preserved (legible : target.dialect.Legible)
    {value : Literal}
    (passes : outcome (target.literalText value) = .ok ()) :
    (Operand.literal value).Preserved target := by
  cases value with
  | scalar number =>
      exact .of_bare trivial (written_number (eq_ok_resultOf passes))
  | boolean truth =>
      refine .of_bare trivial ?_
      have word := written_boolean truth
      cases truth <;> exact word
  | _ =>
      exact .of_base <|
        composite_preserved legible (by simp [Literal.type]) passes

/-- What can be assigned is not written with an infix operator. -/
private theorem isInfix_of_checkTarget {assigned : Operand}
    (passes : checkTarget locals assigned = .ok ()) :
    assigned.isInfix = false := by
  cases assigned with
  | operation node =>
      cases node <;> first
        | rfl
        | cases passes
  | _ =>
      rfl

private theorem declared?_of_legible {assigned : Operand}
    (legible : assigned.Legible) : assigned.declared? = none := by
  cases assigned with
  | operation node =>
      cases node <;> first
        | rfl
        | exact legible.elim
  | _ =>
      rfl

private theorem isName_keyword {function : BuiltInFunction}
    (notDiscard : function ≠ .discard) : IsName function.keyword := by
  cases function <;> first
    | exact absurd rfl notDiscard
    | decide

private theorem callable_functionName (legible : target.dialect.Legible)
    {function : BuiltInFunction} (notDiscard : function ≠ .discard) :
    IsCallable (target.dialect.functionName function) := by
  by_cases sampling : function = .texture2D
  · subst sampling
    exact legible.textureSample.toIsCallable
  · rw [functionName_of_ne sampling]
    exact (isName_keyword notDiscard).toIsCallable

mutual

private theorem operand_preserved (dialect : target.dialect.Legible) :
    ∀ operand : Operand, operand.Legible →
      Passes target locals operand.visits → operand.Preserved target
  | .parameter symbol, legible, _ =>
      .of_base (written_variable legible)
  | .literal value, _, passes =>
      literal_preserved dialect passes.head
  | .builtIn source, _, passes => by
      refine .of_base ?_
      rw [Operand.text, resultOf_lowerBuiltIn passes.head]
      exact written_variable (dialect.builtIns source target.stage)
  | .operation node, legible, passes =>
      operation_preserved dialect node legible passes
  | .raw _, legible, _ => legible.elim

private theorem operation_preserved (dialect : target.dialect.Legible) :
    ∀ node : Operation, node.Legible →
      Passes target locals (node.visits .value) →
        (Operand.operation node).Preserved target
  | .assign operator assigned value, legible, passes => by
      obtain ⟨legibleTarget, legibleValue⟩ := legible
      have noDeclaration := declared?_of_legible legibleTarget
      rw [Operation.visits, noDeclaration] at passes
      have notInfix := isInfix_of_checkTarget passes.head
      have assignedPreserved :=
        operand_preserved dialect assigned legibleTarget passes.tail.left
      have valuePreserved :=
        operand_preserved dialect value legibleValue passes.tail.right
      have assignment :=
        written_assign operator (assignedPreserved.part notInfix)
          valuePreserved.whole
      refine .of_operator rfl ?_
      rw [Operand.text, Operation.text, noDeclaration, Operand.tree,
        Operation.tree]
      simpa [Position.expression] using assignment
  | .declare _, legible, _ => legible.elim
  | .arithmetic operator operands, legible, passes => by
      have preserved :=
        operands_preserved dialect operands legible passes.tail
      have nonempty : operands ≠ [] := by
        rintro rfl
        exact absurd passes.head (by simp [Visit.check, Operation.check])
      exact .of_operator rfl (written_operandChain operator nonempty preserved)
  | .compare operator left right, legible, passes => by
      obtain ⟨legibleLeft, legibleRight⟩ := legible
      have leftPreserved :=
        operand_preserved dialect left legibleLeft passes.tail.left
      have rightPreserved :=
        operand_preserved dialect right legibleRight passes.tail.right
      have unaryTighter :
          Level.unary.rank ≤
            (BinaryOperator.comparison operator).level.tighter.rank := by
        cases operator <;> decide
      have loosest :
          (BinaryOperator.comparison operator).level.rank ≤
            Level.assignment.rank := by
        cases operator <;> decide
      have comparison :=
        written_binary (.comparison operator)
          (leftPreserved.parenthesized.loosen
            (Nat.le_trans unaryTighter (Level.rank_tighter_le _)))
          (rightPreserved.parenthesized.loosen unaryTighter)
      refine .of_operator rfl ?_
      rw [Operand.text, Operation.text, Operand.tree, Operation.tree]
      simpa [Position.expression, BinaryOperator.symbol] using
        comparison.loosen loosest
  | .select base suffix, legible, passes => by
      obtain ⟨legibleBase, notBare, accesses, each, rfl⟩ := legible
      have basePreserved :=
        operand_preserved dialect base legibleBase passes.tail
      have selected :=
        written_accesses each (basePreserved.parenthesizedBase notBare)
      refine .of_base ?_
      rw [Operand.tree, Operation.tree, suffixAccesses_join each]
      simpa [Operand.text, Operation.text, Position.expression] using
        selected
  | .builtIn function arguments, legible, passes => by
      have preserved :=
        operands_preserved dialect arguments legible passes.tail
      have notDiscard : function ≠ .discard := by
        rintro rfl
        exact nomatch passes.head
      have called :=
        written_operandCall (callable_functionName dialect notDiscard)
          preserved
      refine .of_base ?_
      rw [Operand.text, Operation.text, if_neg notDiscard]
      exact called
  | .ifThen .., _, passes => nomatch passes.head
  | .ifElse .., _, passes => nomatch passes.head
  | .loop .., _, passes => nomatch passes.head
  | .returnValue _, _, passes => nomatch passes.head
  | .returnVoid, _, passes => nomatch passes.head
  | .call function arguments, legible, passes => by
      have preserved :=
        operands_preserved dialect arguments legible.2 passes.tail
      exact .of_base <|
        written_operandCall legible.1.toIsCallable preserved
  | .construct type operands, legible, passes => by
      have preserved :=
        operands_preserved dialect operands legible passes.tail
      have typed := (sequence_ok_iff.mp passes.head).2
      have called :=
        written_operandCall (callable_typeWord dialect typed) preserved
      refine .of_base ?_
      rw [Operand.text, Operation.text, resultOf_typeKeyword typed]
      exact called
  | .convert source type pad, legible, passes => by
      have preserved :=
        operand_preserved dialect source legible passes.tail.left
      obtain ⟨converted, typed⟩ := sequence_ok_iff.mp passes.head
      have padded : outcome (paddingTexts source type pad) = .ok () :=
        passes.tail.right.head
      obtain ⟨missing, found⟩ := outcome_ok_iff.mp converted
      obtain ⟨texts, padding⟩ := outcome_ok_iff.mp padded
      have numbers :
          (List.replicate missing pad).mapM numberText = .ok texts := by
        rw [paddingTexts, found] at padding
        exact padding
      have each :
          ∀ part ∈ [(source.text target, source.tree target)],
            Written Closes .assignment part.1.toList part.2 := by
        intro part member
        rw [List.mem_singleton.mp member]
        exact preserved.whole
      have called :=
        written_numberCall (callable_typeWord dialect typed) each numbers
      refine .of_base ?_
      rw [Operand.text, Operation.text, resultOf_typeKeyword typed, padding,
        Operand.tree, Operation.tree, found]
      simpa [Position.expression, resultOf] using called

private theorem operands_preserved (dialect : target.dialect.Legible) :
    ∀ operands : List Operand, OperandsLegible operands →
      Passes target locals (operandVisits operands) →
        ∀ operand ∈ operands, operand.Preserved target
  | [], _, _ => fun _ impossible => nomatch impossible
  | operand :: rest, legible, passes => by
      have first :=
        operand_preserved dialect operand legible.1 passes.left
      have others :=
        operands_preserved dialect rest legible.2 passes.right
      intro other member
      rcases List.mem_cons.mp member with rfl | inRest
      · exact first
      · exact others other inRest

end

end Operands

/-! ## Round trip -/

/-- The text of a lowered operand is read back as the tree of the operand, and
the grammar has no other reading of it. -/
theorem lowerOperand_reads_back {target : Target} {locals : Locals}
    {operand : Operand} {start finish : Progress} {text : String}
    (dialect : target.dialect.Legible) (legible : operand.Legible)
    (lowered : (lowerOperand target locals operand).run start =
      .ok text finish) :
    ∃ tokens, tokens? text = some tokens ∧
      ∀ tree, Reads .assignment tokens tree ↔
        tree = operand.tree target := by
  obtain ⟨walk, rfl⟩ := lowerOperand_run_iff.mp lowered
  have passes : Passes target locals operand.visits :=
    fun visit member => (walk.served visit member).checked
  obtain ⟨tokens, scans, reads⟩ :=
    (operand_preserved dialect operand legible passes).whole
  refine ⟨tokens, scans.tokens?_eq, ?_⟩
  intro tree
  constructor
  · intro other
    exact other.unique reads
  · rintro rfl
    exact reads

theorem glslEs100_legible : Dialect.glslEs100.Legible where
  types := by
    intro type word mapped
    cases type <;> cases mapped <;> decide
  builtIns := by
    intro source stage
    cases source <;> cases stage <;> decide
  textureSample := by decide

/-- The product of a sum and a negative number, compared with a selection from
a call. -/
def shadedOperand : Operand :=
  .operation <| .compare .less
    (.operation <| .arithmetic .multiply
      [.operation <| .arithmetic .add
        [.parameter gainParameter, .builtIn .fragCoord],
        .literal (.scalar ⟨0xC0000000⟩)])
    (.operation <| .select (.operation <| .call (gainFunction 1) [])
      ".xyz[0]")

theorem shadedOperand_legible : shadedOperand.Legible := by
  have suffix : IsSuffix ".xyz[0]" := by
    refine ⟨[.field "xyz", .element "0"], ?_, by decide⟩
    intro access member
    simp only [List.mem_cons, List.not_mem_nil, or_false] at member
    rcases member with rfl | rfl
    · exact (by decide : IsName "xyz")
    · exact ⟨by decide, List.all_eq_true.mp (by decide)⟩
  exact ⟨⟨⟨(by decide : IsName "gain"), trivial, trivial⟩, trivial,
    trivial⟩, ⟨(by decide : IsName "tone"), trivial⟩, fun bare => bare,
    suffix⟩

theorem shadedOperand_lowers :
    ∃ finish,
      (lowerOperand ⟨.glslEs100, .fragment⟩ .empty shadedOperand).run
          .start =
        .ok "((gain + gl_FragCoord) * -2.0) < tone().xyz[0]" finish := by
  have succeeds :
      (match (lowerOperand ⟨.glslEs100, .fragment⟩ .empty
          shadedOperand).run .start with
        | .ok text _ =>
            text == "((gain + gl_FragCoord) * -2.0) < tone().xyz[0]"
        | .error _ _ => false) = true := by
    decide +kernel
  cases lowered : (lowerOperand ⟨.glslEs100, .fragment⟩ .empty
      shadedOperand).run .start with
  | ok text finish =>
      rw [lowered] at succeeds
      exact ⟨finish, by rw [eq_of_beq succeeds]⟩
  | error fault finish =>
      rw [lowered] at succeeds
      cases succeeds

theorem shadedOperand_reads_back :
    ∃ tokens,
      tokens? "((gain + gl_FragCoord) * -2.0) < tone().xyz[0]" =
          some tokens ∧
        Reads .assignment tokens
          (shadedOperand.tree ⟨.glslEs100, .fragment⟩) := by
  obtain ⟨finish, lowered⟩ := shadedOperand_lowers
  obtain ⟨tokens, scanned, readings⟩ :=
    lowerOperand_reads_back glslEs100_legible shadedOperand_legible lowered
  exact ⟨tokens, scanned, (readings _).mpr rfl⟩

end Shaderwright
