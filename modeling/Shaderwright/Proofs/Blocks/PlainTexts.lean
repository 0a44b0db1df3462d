import Shaderwright.Proofs.Blocks.Lines
import Shaderwright.Proofs.Expression.RoundTrip
import Shaderwright.Proofs.Numeral.FloatLiterals
import Shaderwright.Proofs.Scoping.Readings

/-!
Texts of plain trees. Where the names of a tree, the texts that it takes over
and the words of its dialect are of one line, so is the text of every operand
that is lowered, and it begins with a visible character
(`Operand.isWord_text`).
-/

namespace Shaderwright

/-! ## Plain trees -/

/-- The words of a dialect that stand in bodies are words of one line. -/
structure Dialect.WritesWords (dialect : Dialect) : Prop where
  types : ∀ type word, dialect.types type = some word → IsWord word
  builtIns : ∀ source stage, IsWord (dialect.builtInName source stage)
  textureSample : IsWord dialect.textureSample

mutual

/-- Names and texts that are taken over are words of one line. -/
def Operand.IsPlain : Operand → Prop
  | .parameter symbol => IsWord symbol.name
  | .literal _ => True
  | .builtIn _ => True
  | .operation node => node.IsPlain
  | .raw text => IsWord text

/-- Suffixes and the parts of a loop's head are of one line, too. -/
def Operation.IsPlain : Operation → Prop
  | .assign _ assigned value => assigned.IsPlain ∧ value.IsPlain
  | .declare symbol => IsWord symbol.name
  | .arithmetic _ operands => OperandsPlain operands
  | .compare _ left right => left.IsPlain ∧ right.IsPlain
  | .select base suffix => base.IsPlain ∧ IsInline suffix
  | .builtIn _ arguments => OperandsPlain arguments
  | .ifThen condition body => condition.IsPlain ∧ BodyPlain body
  | .ifElse condition body alternative =>
      condition.IsPlain ∧ BodyPlain body ∧ BodyPlain alternative
  | .loop initial condition step body =>
      (IsInline initial ∧ IsInline condition ∧ IsInline step) ∧
        BodyPlain body
  | .returnValue value => value.IsPlain
  | .returnVoid => True
  | .call function arguments =>
      IsWord function.name ∧ OperandsPlain arguments
  | .construct _ operands => OperandsPlain operands
  | .convert source _ _ => source.IsPlain

/-- All operands of a list are plain. -/
def OperandsPlain : List Operand → Prop
  | [] => True
  | operand :: rest => operand.IsPlain ∧ OperandsPlain rest

/-- All operations of a body are plain. -/
def BodyPlain : List Operation → Prop
  | [] => True
  | node :: rest => node.IsPlain ∧ BodyPlain rest

end

/-! ## Texts that are put together -/

section Texts

variable {name separator text : String} {texts : List String}

theorem IsWord.isInline (word : IsWord text) : IsInline text :=
  word.1

theorem isInline_intercalate (inline : IsInline separator)
    (each : ∀ text ∈ texts, IsInline text) :
    IsInline (separator.intercalate texts) := by
  induction texts with
  | nil =>
      exact List.not_mem_nil
  | cons first rest inductionHypothesis =>
      obtain ⟨firstInline, others⟩ := List.forall_mem_cons.mp each
      cases rest with
      | nil =>
          simpa using firstInline
      | cons second rest =>
          rw [String.intercalate_cons_cons]
          exact (firstInline.append inline).append
            (inductionHypothesis others)

theorem isWord_intercalate {first : String} (word : IsWord first)
    (inline : IsInline separator) (each : ∀ text ∈ texts, IsInline text) :
    IsWord (separator.intercalate (first :: texts)) := by
  cases texts with
  | nil =>
      simpa using word
  | cons second rest =>
      rw [String.intercalate_cons_cons]
      exact (word.append inline).append (isInline_intercalate inline each)

/-- An operator stands between spaces. -/
theorem isWord_infix {first symbol second : String} (word : IsWord first)
    (spaced : IsInline (" " ++ symbol ++ " ")) (inline : IsInline second) :
    IsWord (first ++ " " ++ symbol ++ " " ++ second) := by
  have textEq : first ++ " " ++ symbol ++ " " ++ second =
      first ++ (" " ++ symbol ++ " ") ++ second := by
    simp only [String.append_assoc]
  rw [textEq]
  exact (word.append spaced).append inline

theorem isWord_callText (word : IsWord name)
    (each : ∀ text ∈ texts, IsInline text) :
    IsWord (callText name texts) := by
  have comma : IsInline ", " := by decide
  have opening : IsInline "(" := by decide
  have closing : IsInline ")" := by decide
  exact ((word.append opening).append
    (isInline_intercalate comma each)).append closing

theorem isWord_parenthesized (operand : Operand) (word : IsWord text) :
    IsWord (operand.parenthesized text) := by
  have opening : IsWord "(" := by decide
  have closing : IsInline ")" := by decide
  unfold Operand.parenthesized
  by_cases isInfix : operand.isInfix = true
  · rw [if_pos isInfix]
    exact (opening.append word.isInline).append closing
  · rw [if_neg isInfix]
    exact word

theorem isInline_of_digits {digits : List Char}
    (areDigits : ∀ c ∈ digits, c.isDigit = true) : '\n' ∉ digits :=
  fun newline => absurd (areDigits _ newline) (by decide)

/-- A literal begins with its sign or with a digit. -/
theorem DecimalLiteral.isWord_text (literal : DecimalLiteral) :
    IsWord literal.text := by
  have whole := isInline_of_digits literal.whole_isDigit
  have fraction := isInline_of_digits literal.fraction_isDigit
  obtain ⟨digit, others, wholeEq⟩ :=
    List.exists_cons_of_ne_nil literal.whole_ne_nil
  have visible : digit ≠ ' ' := by
    rintro rfl
    exact absurd (literal.whole_isDigit ' ' (by simp [wholeEq])) (by decide)
  unfold IsWord IsInline DecimalLiteral.text DecimalLiteral.sign
  rw [String.toList_ofList]
  cases literal.isNegative with
  | false =>
      refine ⟨by simp [whole, fraction], ?_⟩
      simpa [wholeEq] using visible
  | true =>
      exact ⟨by simp [whole, fraction], by simp⟩

theorem isWord_numberText {value : Binary32}
    (written : numberText value = .ok text) : IsWord text := by
  have finite : value.isFinite = true := by
    by_contra notFinite
    simp [numberText, Binary32.literalText?, notFinite] at written
  obtain ⟨literal, textEq, _⟩ := exists_literal finite
  rw [written] at textEq
  rw [Except.ok.inj textEq]
  exact literal.isWord_text

theorem isWord_numberTexts {numbers : List Binary32}
    (written : numbers.mapM numberText = .ok texts) :
    ∀ text ∈ texts, IsWord text := by
  obtain ⟨rfl, each⟩ := numberTexts_eq_map written
  intro text member
  obtain ⟨number, inList, rfl⟩ := List.mem_map.mp member
  exact isWord_numberText (each number inList)

theorem isWord_paddingTexts {source : Operand} {type : ShaderType}
    {pad : Binary32}
    (passes : outcome (paddingTexts source type pad) = .ok ()) :
    ∀ text ∈ resultOf (paddingTexts source type pad), IsWord text := by
  have written := eq_ok_resultOf passes
  generalize resultOf (paddingTexts source type pad) = texts at written
  unfold paddingTexts at written
  split at written
  · exact isWord_numberTexts written
  · cases written
    exact fun _ impossible => nomatch impossible

theorem isInline_arraySuffix (length : Nat) :
    IsInline (arraySuffix length) := by
  have digits : IsInline (toString length) := by
    rw [IsInline, Nat.toString_eq_ofList_toDigits, String.toList_ofList]
    exact isInline_of_digits fun c member =>
      Nat.isDigit_of_mem_toDigits (by decide) (by decide) member
  have opening : IsInline "[" := by decide
  have closing : IsInline "]" := by decide
  unfold arraySuffix
  split
  · decide
  · exact (opening.append digits).append closing

end Texts

/-! ## Words of the dialect -/

section Words

variable {target : Target} (dialect : target.dialect.WritesWords)

include dialect

theorem isWord_typeKeyword {type : ShaderType} {usedBy : String}
    (passes : outcome (target.typeKeyword type usedBy) = .ok ()) :
    IsWord (resultOf (target.typeKeyword type usedBy)) :=
  dialect.types type _ (typeKeyword_eq_ok_iff.mp (eq_ok_resultOf passes))

theorem isWord_variableText {symbol : Parameter} (name : IsWord symbol.name)
    (passes : outcome (target.typeKeyword symbol.type symbol.name) = .ok ()) :
    IsWord (resultOf (target.variableText symbol)) := by
  have space : IsInline " " := by decide
  have word := isWord_typeKeyword dialect passes
  rw [Target.variableText, eq_ok_resultOf passes]
  exact (word.append space).append name.isInline

theorem isWord_sizedVariableText {symbol : Parameter}
    (name : IsWord symbol.name)
    (passes : outcome (target.typeKeyword symbol.type symbol.name) = .ok ()) :
    IsWord (resultOf (target.sizedVariableText symbol)) := by
  have written : target.variableText symbol =
      .ok (resultOf (target.variableText symbol)) := by
    apply eq_ok_resultOf
    rw [outcome_variableText]
    exact passes
  have word := isWord_variableText dialect name passes
  rw [Target.sizedVariableText, written]
  exact word.append (isInline_arraySuffix symbol.arrayLength)

theorem isWord_builtIn {source : BuiltInVariable}
    (passes : outcome (lowerBuiltIn target source) = .ok ()) :
    IsWord (resultOf (lowerBuiltIn target source)) := by
  rw [resultOf_lowerBuiltIn passes]
  exact dialect.builtIns source target.stage

theorem isWord_functionName (function : BuiltInFunction) :
    IsWord (target.dialect.functionName function) := by
  by_cases sampling : function = .texture2D
  · subst sampling
    exact dialect.textureSample
  · rw [functionName_of_ne sampling]
    cases function <;> decide

theorem isWord_literalText {value : Literal}
    (passes : outcome (target.literalText value) = .ok ()) :
    IsWord (resultOf (target.literalText value)) := by
  by_cases composite : value.type ≠ .scalar ∧ value.type ≠ .boolean
  case pos =>
    obtain ⟨typed, texts, numbers, written⟩ :=
      resultOf_literalText composite passes
    rw [written, ← resultOf_typeKeyword typed]
    exact isWord_callText (isWord_typeKeyword dialect typed)
      fun text member => (isWord_numberTexts numbers text member).isInline
  case neg =>
    cases value with
    | scalar number =>
        exact isWord_numberText (eq_ok_resultOf passes)
    | boolean truth =>
        cases truth with
        | true => exact (by decide : IsWord "true")
        | false => exact (by decide : IsWord "false")
    | _ =>
        simp [Literal.type] at composite

end Words

/-! ## Operands -/

section Operands

variable {target : Target} {locals : Locals}

theorem isInline_assignmentSymbol (operator : AssignmentOperator) :
    IsInline (" " ++ operator.symbol ++ " ") := by
  cases operator <;> decide

theorem isInline_arithmeticSymbol (operator : ArithmeticOperator) :
    IsInline (" " ++ operator.symbol ++ " ") := by
  cases operator <;> decide

theorem isInline_comparisonSymbol (operator : ComparisonOperator) :
    IsInline (" " ++ operator.symbol ++ " ") := by
  cases operator <;> decide

theorem isWord_chain (operator : ArithmeticOperator)
    {operands : List Operand} (nonempty : operands ≠ [])
    (words : ∀ operand ∈ operands, IsWord (operand.text target)) :
    IsWord ((" " ++ operator.symbol ++ " ").intercalate
      (parenthesizedAll operands (operandTexts target operands))) := by
  rw [parenthesizedAll_eq_map]
  cases operands with
  | nil =>
      exact absurd rfl nonempty
  | cons first rest =>
      obtain ⟨firstWord, others⟩ := List.forall_mem_cons.mp words
      rw [List.map_cons]
      apply isWord_intercalate (isWord_parenthesized first firstWord)
        (isInline_arithmeticSymbol operator)
      intro text member
      obtain ⟨operand, inRest, rfl⟩ := List.mem_map.mp member
      exact (isWord_parenthesized operand (others operand inRest)).isInline

theorem isWord_operandCall {name : String} {operands : List Operand}
    (word : IsWord name)
    (words : ∀ operand ∈ operands, IsWord (operand.text target)) :
    IsWord (callText name (operandTexts target operands)) := by
  rw [operandTexts_eq_map]
  apply isWord_callText word
  intro text member
  obtain ⟨operand, inList, rfl⟩ := List.mem_map.mp member
  exact (words operand inList).isInline

theorem declared?_isPlain {assigned : Operand} {symbol : Parameter}
    (declared : assigned.declared? = some symbol)
    (plain : assigned.IsPlain) : IsWord symbol.name := by
  rw [Operand.eq_declare_of_declared? declared] at plain
  exact plain

mutual

/-- The text of a plain operand that is lowered is a word of one line. -/
theorem Operand.isWord_text (dialect : target.dialect.WritesWords) :
    ∀ operand : Operand, operand.IsPlain →
      Passes target locals operand.visits → IsWord (operand.text target)
  | .parameter _, plain, _ => plain
  | .literal _, _, passes => isWord_literalText dialect passes.head
  | .builtIn _, _, passes => isWord_builtIn dialect passes.head
  | .operation node, plain, passes =>
      Operation.isWord_text dialect node plain passes
  | .raw _, plain, _ => plain

/-- The text of a plain operation that stands as a value. -/
theorem Operation.isWord_text (dialect : target.dialect.WritesWords) :
    ∀ node : Operation, node.IsPlain →
      Passes target locals (node.visits .value) →
        IsWord (node.text target .value)
  | .assign operator assigned value, plain, passes => by
      obtain ⟨plainTarget, plainValue⟩ := plain
      have spaced := isInline_assignmentSymbol operator
      cases declared : assigned.declared? with
      | some symbol =>
          rw [Operation.visits, declared] at passes
          have name := declared?_isPlain declared plainTarget
          have introduced :=
            isWord_variableText dialect name passes.tail.left.head
          have right :=
            Operand.isWord_text dialect value plainValue passes.tail.right
          rw [Operation.text, declared]
          exact isWord_infix introduced spaced right.isInline
      | none =>
          rw [Operation.visits, declared] at passes
          have left := Operand.isWord_text dialect assigned plainTarget
            passes.tail.left
          have right :=
            Operand.isWord_text dialect value plainValue passes.tail.right
          rw [Operation.text, declared]
          exact isWord_infix left spaced right.isInline
  | .declare _, _, passes => nomatch passes.head
  | .arithmetic operator operands, plain, passes => by
      have words := isWord_texts dialect operands plain passes.tail
      have nonempty : operands ≠ [] := by
        rintro rfl
        exact absurd passes.head (by simp [Visit.check, Operation.check])
      exact isWord_chain operator nonempty words
  | .compare operator left right, plain, passes => by
      have leftWord := Operand.isWord_text dialect left plain.1
        passes.tail.left
      have rightWord := Operand.isWord_text dialect right plain.2
        passes.tail.right
      exact isWord_infix (isWord_parenthesized left leftWord)
        (isInline_comparisonSymbol operator)
        (isWord_parenthesized right rightWord).isInline
  | .select base suffix, plain, passes => by
      have word := Operand.isWord_text dialect base plain.1 passes.tail
      exact (isWord_parenthesized base word).append plain.2
  | .builtIn function arguments, plain, passes => by
      have words := isWord_texts dialect arguments plain passes.tail
      have notDiscard : function ≠ .discard := by
        rintro rfl
        exact nomatch passes.head
      rw [Operation.text, if_neg notDiscard]
      exact isWord_operandCall (isWord_functionName dialect function) words
  | .ifThen .., _, passes => nomatch passes.head
  | .ifElse .., _, passes => nomatch passes.head
  | .loop .., _, passes => nomatch passes.head
  | .returnValue _, _, passes => nomatch passes.head
  | .returnVoid, _, passes => nomatch passes.head
  | .call function arguments, plain, passes =>
      isWord_operandCall plain.1
        (isWord_texts dialect arguments plain.2 passes.tail)
  | .construct type operands, plain, passes => by
      have words := isWord_texts dialect operands plain passes.tail
      have typed := (sequence_ok_iff.mp passes.head).2
      exact isWord_operandCall (isWord_typeKeyword dialect typed) words
  | .convert source type pad, plain, passes => by
      have word := Operand.isWord_text dialect source plain passes.tail.left
      have typed := (sequence_ok_iff.mp passes.head).2
      have padded : outcome (paddingTexts source type pad) = .ok () :=
        passes.tail.right.head
      have padding := isWord_paddingTexts padded
      have each : ∀ text ∈ source.text target ::
          resultOf (paddingTexts source type pad), IsInline text :=
        List.forall_mem_cons.mpr
          ⟨word.isInline, fun text member => (padding text member).isInline⟩
      exact isWord_callText (isWord_typeKeyword dialect typed) each

/-- The texts of the plain operands of a list. -/
theorem isWord_texts (dialect : target.dialect.WritesWords) :
    ∀ operands : List Operand, OperandsPlain operands →
      Passes target locals (operandVisits operands) →
        ∀ operand ∈ operands, IsWord (operand.text target)
  | [], _, _ => fun _ impossible => nomatch impossible
  | operand :: rest, plain, passes => by
      have first := Operand.isWord_text dialect operand plain.1 passes.left
      have others := isWord_texts dialect rest plain.2 passes.right
      exact List.forall_mem_cons.mpr ⟨first, others⟩

end

end Operands

end Shaderwright
