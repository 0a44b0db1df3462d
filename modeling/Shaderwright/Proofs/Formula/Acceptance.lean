import Shaderwright.Proofs.Formula.Rendering

/-!
Which formulas have code. A formula is translated part by part, in the order
it is read, and the first part that describes no shader operation ends the
translation with its fault (`faultOf_code`). So a formula has code exactly when
the grammar of formulas derives it (`code_accepts_grammar`).
-/

namespace Shaderwright.Formula

/-! ## The grammar -/

/-- A literal without a minus. -/
def isConstant : Formula → Bool
  | .constant _ => true
  | _ => false

/-- The formulas that describe an operand or an operation. What stands in the
brackets of an index may be anything. -/
inductive Accepted : Formula → Prop where
  | integer (spelling : String) : Accepted (.constant (.integer spelling))
  | decimal (spelling : String) : Accepted (.constant (.decimal spelling))
  | boolean (value : Bool) : Accepted (.constant (.boolean value))
  | name (identifier : String) : Accepted (.path (.name identifier))
  | segments (tokens : List Token) : Accepted (.path (.segments tokens))
  | negatedInteger (spelling : String) :
      Accepted (.unary .negate (.constant (.integer spelling)))
  | negatedDecimal (spelling : String) :
      Accepted (.unary .negate (.constant (.decimal spelling)))
  | negation {value : Formula} (accepted : Accepted value)
      (noLiteral : value.isConstant = false) :
      Accepted (.unary .negate value)
  | parenthesized {inner : Formula} (accepted : Accepted inner) :
      Accepted (.parenthesized inner)
  | grouped {inner : Formula} (accepted : Accepted inner) :
      Accepted (.grouped inner)
  | arithmetic (operator : ArithmeticOperator) {left right : Formula}
      (acceptedLeft : Accepted left) (acceptedRight : Accepted right) :
      Accepted (.binary (.arithmetic operator) left right)
  | comparison (operator : ComparisonOperator) {left right : Formula}
      (acceptedLeft : Accepted left) (acceptedRight : Accepted right) :
      Accepted (.binary (.comparison operator) left right)
  | assign {target value : Formula}
      (acceptedTarget : Accepted target) (acceptedValue : Accepted value) :
      Accepted (.assign target value)
  | compoundAssign (operator : ArithmeticOperator) {target value : Formula}
      (acceptedTarget : Accepted target) (acceptedValue : Accepted value) :
      Accepted (.compoundAssign (.arithmetic operator) target value)
  | select {base : Formula} (accepted : Accepted base)
      (identifier : String) :
      Accepted (.select base (.named identifier))
  | index {base : Formula} (accepted : Accepted base)
      (subscript : List Token) :
      Accepted (.index base subscript)
  | discard : Accepted (.call (.path (.name "discard")) [])
  | call {name : String} {arguments : List Formula}
      (other : name ≠ "discard")
      (accepted : ∀ argument ∈ arguments, Accepted argument) :
      Accepted (.call (.path (.name name)) arguments)

/-- A formula without the parentheses and the groups around it. -/
def bare : Formula → Formula
  | .parenthesized inner => inner.bare
  | .grouped inner => inner.bare
  | formula => formula

/-- A literal, a minus directly on a literal, or a path. -/
inductive Leaf : Formula → Prop where
  | constant (literal : Constant) : Leaf (.constant literal)
  | negated (literal : Constant) : Leaf (.unary .negate (.constant literal))
  | path (named : Path) : Leaf (.path named)

/-! ## Faults of parts -/

mutual

/-- The parts of a formula that are translated by themselves, each before those
below it. A literal and its minus are one part, and the callee of a call is
none. -/
def parts : Formula → List Formula
  | .unary .negate (.constant literal) =>
      [.unary .negate (.constant literal)]
  | .unary operator operand => .unary operator operand :: operand.parts
  | .binary operator left right =>
      .binary operator left right :: (left.parts ++ right.parts)
  | .assign target value =>
      .assign target value :: (target.parts ++ value.parts)
  | .compoundAssign operator target value =>
      .compoundAssign operator target value :: (target.parts ++ value.parts)
  | .select base member => .select base member :: base.parts
  | .index base subscript => .index base subscript :: base.parts
  | .call callee arguments => .call callee arguments :: partsOfAll arguments
  | .parenthesized inner => .parenthesized inner :: inner.parts
  | .grouped inner => .grouped inner :: inner.parts
  | .constant literal => [.constant literal]
  | .path named => [.path named]
  | .foreign form => [.foreign form]

/-- The parts of a list of formulas. -/
def partsOfAll : List Formula → List Formula
  | [] => []
  | formula :: rest => formula.parts ++ partsOfAll rest

end

/-- Why a literal is no operand. -/
def Constant.fault? (isNegative : Bool) : Constant → Option Unsupported
  | .integer _ | .decimal _ => none
  | .boolean _ => if isNegative then some .literal else none
  | .text _ => some .literal

/-- Why a part describes no shader operation, whatever is below it. -/
def fault? : Formula → Option Unsupported
  | .constant literal => literal.fault? false
  | .path (.qualified _) => some .singleOperand
  | .path _ => none
  | .unary .negate (.constant literal) => literal.fault? true
  | .unary .negate _ => none
  | .unary _ _ => some .unaryOperator
  | .binary (.arithmetic _) _ _ => none
  | .binary (.comparison _) _ _ => none
  | .binary _ _ _ => some .operator
  | .assign _ _ => none
  | .compoundAssign (.arithmetic _) _ _ => none
  | .compoundAssign _ _ _ => some .operator
  | .select _ (.named _) => none
  | .select _ (.position _) => some .tupleIndexing
  | .index _ _ => none
  | .call (.path (.name name)) arguments =>
      if name = "discard" ∧ arguments ≠ [] then some .discardArguments
      else none
  | .call _ _ => some .callee
  | .parenthesized _ => none
  | .grouped _ => none
  | .foreign _ => some .expression

/-- The fault of the first part that has one. -/
def firstFault? (formula : Formula) : Option Unsupported :=
  formula.parts.findSome? fault?

/-- How a translation ends: with no fault, or with the one it reports. -/
def faultOf {α : Type} : Except Unsupported α → Option Unsupported
  | .ok _ => none
  | .error fault => some fault

/-! ## Faults of a translation -/

private theorem exists_eq_ok_iff {α : Type} {result : Except Unsupported α} :
    (∃ value, result = .ok value) ↔ faultOf result = none := by
  cases result <;> simp [faultOf]

private theorem eq_error_iff {α : Type} {result : Except Unsupported α}
    {fault : Unsupported} :
    result = .error fault ↔ faultOf result = some fault := by
  cases result <;> simp [faultOf]

private theorem map_eq_ok_iff {α β : Type} {wrap : α → β}
    {result : Except Unsupported α} {wrapped : β} :
    wrap <$> result = .ok wrapped ↔
      ∃ value, result = .ok value ∧ wrap value = wrapped := by
  cases result <;> simp

@[simp] private theorem faultOf_map {α β : Type} (wrap : α → β)
    (result : Except Unsupported α) :
    faultOf (wrap <$> result) = faultOf result := by
  cases result <;> rfl

/-- What follows is met only where what goes before has no fault. -/
private theorem faultOf_bind {α β : Type} {first : Except Unsupported α}
    {next : α → Except Unsupported β} (later : Option Unsupported)
    (nextFault : ∀ value, faultOf (next value) = later) :
    faultOf (first >>= next) = (faultOf first).or later := by
  cases first with
  | ok value =>
      exact nextFault value
  | error fault =>
      rfl

/-- A part without a fault of its own leaves the first one to what is
below. -/
private theorem firstFault?_eq {formula : Formula} {below : List Formula}
    (parts_eq : formula.parts = formula :: below) :
    formula.firstFault? = formula.fault?.or (below.findSome? fault?) := by
  rw [firstFault?, parts_eq, List.findSome?_cons]
  cases formula.fault? <;> rfl

private theorem firstFault?_base {formula base : Formula}
    (parts_eq : formula.parts = formula :: base.parts) :
    formula.firstFault? = formula.fault?.or base.firstFault? :=
  firstFault?_eq parts_eq

private theorem firstFault?_sides {formula left right : Formula}
    (parts_eq : formula.parts = formula :: (left.parts ++ right.parts)) :
    formula.firstFault? =
      formula.fault?.or (left.firstFault?.or right.firstFault?) := by
  rw [firstFault?_eq parts_eq, List.findSome?_append]
  rfl

private theorem firstFault?_binary (operator : BinaryOperator)
    (left right : Formula) :
    firstFault? (.binary operator left right) =
      (fault? (.binary operator left right)).or
        (left.firstFault?.or right.firstFault?) :=
  firstFault?_sides rfl

private theorem firstFault?_assign (target value : Formula) :
    firstFault? (.assign target value) =
      target.firstFault?.or value.firstFault? :=
  firstFault?_sides rfl

private theorem firstFault?_compoundAssign (operator : BinaryOperator)
    (target value : Formula) :
    firstFault? (.compoundAssign operator target value) =
      (fault? (.compoundAssign operator target value)).or
        (target.firstFault?.or value.firstFault?) :=
  firstFault?_sides rfl

private theorem firstFault?_select (base : Formula) (member : Member) :
    firstFault? (.select base member) =
      (fault? (.select base member)).or base.firstFault? :=
  firstFault?_base rfl

private theorem firstFault?_index (base : Formula)
    (subscript : List Token) :
    firstFault? (.index base subscript) = base.firstFault? :=
  firstFault?_base rfl

private theorem firstFault?_call (callee : Formula)
    (arguments : List Formula) :
    firstFault? (.call callee arguments) =
      (fault? (.call callee arguments)).or
        ((partsOfAll arguments).findSome? fault?) :=
  firstFault?_eq rfl

private theorem firstFault?_parenthesized (inner : Formula) :
    firstFault? (.parenthesized inner) = inner.firstFault? :=
  firstFault?_base rfl

private theorem firstFault?_grouped (inner : Formula) :
    firstFault? (.grouped inner) = inner.firstFault? :=
  firstFault?_base rfl

private theorem firstFault?_negate {value : Formula}
    (noLiteral : value.isConstant = false) :
    firstFault? (.unary .negate value) = value.firstFault? := by
  have parts_eq : parts (.unary .negate value) =
      .unary .negate value :: value.parts := by
    cases value <;> first | rfl | cases noLiteral
  have own : fault? (.unary .negate value) = none := by
    cases value <;> first | rfl | cases noLiteral
  rw [firstFault?_base parts_eq, own, Option.none_or]

private theorem firstFault?_unary {operator : UnaryOperator}
    (other : operator ≠ .negate) (operand : Formula) :
    firstFault? (.unary operator operand) = some .unaryOperator := by
  have parts_eq : parts (.unary operator operand) =
      .unary operator operand :: operand.parts := by
    rw [parts]
    exact fun _ minus => absurd minus other
  rw [firstFault?_base parts_eq, fault?]
  · rfl
  · exact fun _ minus => absurd minus other
  · exact other

private theorem faultOf_constantCode (isNegative : Bool)
    (literal : Constant) :
    faultOf (constantCode isNegative literal) =
      literal.fault? isNegative := by
  cases literal <;> cases isNegative <;> rfl

/-- A formula that describes an operand is translated without a step to an
operation, apart from a path that a type qualifies. -/
private theorem faultOf_operandCode_of_isOperand :
    ∀ {formula : Formula}, formula.isOperand = true →
      faultOf (operandCode formula.operationCode formula) =
        formula.firstFault?
  | .constant literal, _ => by
      have own := faultOf_constantCode false literal
      simpa [operandCode, firstFault?, parts, fault?] using own
  | .unary .negate (.constant literal), _ => by
      have own := faultOf_constantCode true literal
      simpa [operandCode, firstFault?, parts, fault?] using own
  | .path named, _ => by
      cases named <;> rfl
  | .parenthesized inner, operand | .grouped inner, operand => by
      have below : faultOf (operandCode inner.operationCode inner) =
          inner.firstFault? := faultOf_operandCode_of_isOperand operand
      rw [operationCode, operandCode, below]
      rfl

/-- The translator of operations reports the first fault of a formula that it
is asked for. -/
def OperationFaults (formula : Formula) : Prop :=
  formula.isOperand = false →
    faultOf formula.operationCode = formula.firstFault?

private theorem OperationFaults.operand {formula : Formula}
    (faults : OperationFaults formula) :
    faultOf (operandCode formula.operationCode formula) =
      formula.firstFault? := by
  cases operand : formula.isOperand with
  | true =>
      exact faultOf_operandCode_of_isOperand operand
  | false =>
      rw [operandCode_eq_of_not_isOperand operand, faultOf_map]
      exact faults operand

/-- The left side of an operator is read first, as a chain or as one
operand. -/
private theorem OperationFaults.leading {left : Formula}
    (faults : OperationFaults left) (operator : ArithmeticOperator) :
    faultOf (leadingOperands operator left.operationCode left) =
      left.firstFault? := by
  rw [leadingOperands]
  by_cases chain : left.isChain operator = true
  case pos =>
      have node : left.isOperand = false := by
        cases left <;> first | rfl | simp [isChain] at chain
      rw [if_pos chain, ← faults node]
      exact faultOf_map _ _
  case neg =>
      simp only [if_neg chain, bind_pure_comp, faultOf_map]
      exact faults.operand

/-- Both sides of a node are operands, and the left one is read first. -/
private theorem faultOf_sides {α : Type} {left right : Formula}
    (leftFaults : OperationFaults left) (rightFaults : OperationFaults right)
    (node : OperandCode → OperandCode → α) :
    faultOf (do
      let left ← operandCode left.operationCode left
      let right ← operandCode right.operationCode right
      return node left right) =
    left.firstFault?.or right.firstFault? := by
  rw [faultOf_bind right.firstFault?, leftFaults.operand]
  intro operand
  simp only [bind_pure_comp, faultOf_map]
  exact rightFaults.operand

/-- A node with one operand below it has no fault but that operand's. -/
private theorem faultOf_base {α : Type} {base : Formula}
    (faults : OperationFaults base) (node : OperandCode → α) :
    faultOf (do
      let base ← operandCode base.operationCode base
      return node base) =
    base.firstFault? := by
  simp only [bind_pure_comp, faultOf_map]
  exact faults.operand

mutual

/-- By induction on the formula: each case reads what is below it in the order
of its parts. -/
private theorem operationFaults :
    ∀ formula : Formula, OperationFaults formula
  | .binary operator left right => by
      intro _
      have leftFaults := operationFaults left
      have rightFaults := operationFaults right
      rw [firstFault?_binary]
      cases operator with
      | arithmetic operator =>
          rw [operationCode, faultOf_bind right.firstFault?,
            leftFaults.leading operator]
          · rfl
          · intro leading
            exact faultOf_base rightFaults _
      | comparison operator =>
          rw [operationCode]
          exact faultOf_sides leftFaults rightFaults _
      | _ =>
          rw [operationCode] <;> simp [fault?, faultOf]
  | .assign target value => by
      intro _
      rw [firstFault?_assign, operationCode]
      exact faultOf_sides (operationFaults target) (operationFaults value) _
  | .compoundAssign operator target value => by
      intro _
      rw [firstFault?_compoundAssign]
      cases assigned : operator.assignment? with
      | none =>
          simp only [operationCode, assigned]
          cases operator with
          | arithmetic operator =>
              cases operator <;> cases assigned
          | _ =>
              rfl
      | some assignment =>
          obtain ⟨arithmetic, rfl, rfl⟩ :=
            assignment?_eq_some_iff.mp assigned
          simp only [operationCode, assigned]
          exact
            faultOf_sides (operationFaults target) (operationFaults value) _
  | .select base (.named identifier) => by
      intro _
      rw [firstFault?_select, operationCode]
      exact faultOf_base (operationFaults base) _
  | .index base subscript => by
      intro _
      rw [firstFault?_index, operationCode]
      exact faultOf_base (operationFaults base) _
  | .call callee arguments => by
      intro _
      rw [firstFault?_call]
      cases found : calleeName? callee with
      | none =>
          have own : fault? (.call callee arguments) = some .callee := by
            rcases callee with _ | (_ | _ | _) | _ <;>
              first | rfl | cases found
          rw [own]
          simp only [operationCode, found]
          rfl
      | some name =>
          obtain rfl := calleeName?_eq_some_iff.mp found
          by_cases discards : name = "discard"
          case pos =>
              subst discards
              cases arguments with
              | nil =>
                  simp [operationCode, calleeName?, faultOf, fault?,
                    partsOfAll]
              | cons _ _ =>
                  simp [operationCode, calleeName?, faultOf, fault?]
          case neg =>
              have own : fault? (.call (.path (.name name)) arguments) =
                  none := by
                simp [fault?, discards]
              rw [own, Option.none_or, ← operandCodesFaults arguments]
              simp [operationCode, calleeName?]
  | .unary .negate value => by
      intro operation
      have noLiteral : value.isConstant = false := by
        cases value <;> first | rfl | cases operation
      rw [firstFault?_negate noLiteral, operationCode]
      exact faultOf_base (operationFaults value) _
  | .parenthesized inner => by
      intro operation
      rw [firstFault?_parenthesized, operationCode]
      exact operationFaults inner operation
  | .grouped inner => by
      intro operation
      rw [firstFault?_grouped, operationCode]
      exact operationFaults inner operation
  | .constant _ | .path _ => by
      intro operation
      cases operation
  | .select base (.position place) => by
      intro _
      rw [firstFault?_select, operationCode]
      rfl
  | .unary .complement operand | .unary .dereference operand => by
      intro _
      rw [firstFault?_unary (by decide), operationCode]
      · rfl
      · simp
  | .foreign _ => fun _ => rfl

private theorem operandCodesFaults : ∀ formulas : List Formula,
    faultOf (operandCodes formulas) =
      (partsOfAll formulas).findSome? fault?
  | [] => rfl
  | formula :: rest => by
      rw [operandCodes, partsOfAll, List.findSome?_append,
        faultOf_bind ((partsOfAll rest).findSome? fault?),
        (operationFaults formula).operand]
      · rfl
      · intro operand
        rw [← operandCodesFaults rest]
        simp only [bind_pure_comp, faultOf_map]

end

/-! ## Derivations -/

private theorem findSome?_partsOfAll_eq_none_iff
    {formulas : List Formula} :
    (partsOfAll formulas).findSome? fault? = none ↔
      ∀ formula ∈ formulas, formula.firstFault? = none := by
  induction formulas with
  | nil =>
      simp [partsOfAll]
  | cons formula rest inductionHypothesis =>
      rw [partsOfAll, List.findSome?_append, Option.or_eq_none_iff,
        inductionHypothesis, List.forall_mem_cons]
      rfl

/-- No part of a formula of the grammar has a fault. -/
theorem Accepted.firstFault? {formula : Formula}
    (accepted : formula.Accepted) : formula.firstFault? = none := by
  induction accepted with
  | integer _ | decimal _ | boolean _ | name _ | segments _
  | negatedInteger _ | negatedDecimal _ =>
      rfl
  | negation _ noLiteral inductionHypothesis =>
      rw [firstFault?_negate noLiteral, inductionHypothesis]
  | parenthesized _ inductionHypothesis =>
      rw [firstFault?_parenthesized, inductionHypothesis]
  | grouped _ inductionHypothesis =>
      rw [firstFault?_grouped, inductionHypothesis]
  | arithmetic operator _ _ leftHypothesis rightHypothesis
  | comparison operator _ _ leftHypothesis rightHypothesis =>
      rw [firstFault?_binary, leftHypothesis, rightHypothesis]
      rfl
  | assign _ _ targetHypothesis valueHypothesis =>
      rw [firstFault?_assign, targetHypothesis, valueHypothesis]
      rfl
  | compoundAssign operator _ _ targetHypothesis valueHypothesis =>
      rw [firstFault?_compoundAssign, targetHypothesis, valueHypothesis]
      rfl
  | select _ identifier inductionHypothesis =>
      rw [firstFault?_select, inductionHypothesis]
      rfl
  | index _ subscript inductionHypothesis =>
      rw [firstFault?_index, inductionHypothesis]
  | discard =>
      rfl
  | @call name arguments other _ inductionHypothesis =>
      have own : fault? (.call (.path (.name name)) arguments) = none := by
        simp [fault?, other]
      have below : (partsOfAll arguments).findSome? fault? = none :=
        findSome?_partsOfAll_eq_none_iff.mpr inductionHypothesis
      rw [firstFault?_call, own, below]
      rfl

/-- Both sides of a node are without a fault where the node is. -/
private theorem sides_of_or_eq_none {own first second : Option Unsupported}
    (clean : own.or (first.or second) = none) :
    own = none ∧ first = none ∧ second = none := by
  simpa only [Option.or_eq_none_iff] using clean

mutual

/-- A formula without a fault in its parts is derived from the grammar, by
induction on the formula. -/
private theorem accepted_of_firstFault? : ∀ formula : Formula,
    formula.firstFault? = none → formula.Accepted
  | .constant (.integer spelling), _ => .integer spelling
  | .constant (.decimal spelling), _ => .decimal spelling
  | .constant (.boolean value), _ => .boolean value
  | .path (.name identifier), _ => .name identifier
  | .path (.segments tokens), _ => .segments tokens
  | .unary .negate value, clean => by
      by_cases literal : value.isConstant = true
      case pos =>
          rcases value with (spelling | spelling | _ | _) | _
          case constant.integer =>
              exact .negatedInteger spelling
          case constant.decimal =>
              exact .negatedDecimal spelling
          all_goals first | cases clean | cases literal
      case neg =>
          have noLiteral : value.isConstant = false := by
            simpa using literal
          rw [firstFault?_negate noLiteral] at clean
          exact .negation (accepted_of_firstFault? value clean) noLiteral
  | .binary operator left right, clean => by
      rw [firstFault?_binary] at clean
      obtain ⟨own, leftClean, rightClean⟩ := sides_of_or_eq_none clean
      have acceptedLeft := accepted_of_firstFault? left leftClean
      have acceptedRight := accepted_of_firstFault? right rightClean
      cases operator with
      | arithmetic operator =>
          exact .arithmetic operator acceptedLeft acceptedRight
      | comparison operator =>
          exact .comparison operator acceptedLeft acceptedRight
      | _ =>
          cases own
  | .assign target value, clean => by
      rw [firstFault?_assign, Option.or_eq_none_iff] at clean
      obtain ⟨targetClean, valueClean⟩ := clean
      exact .assign (accepted_of_firstFault? target targetClean)
        (accepted_of_firstFault? value valueClean)
  | .compoundAssign operator target value, clean => by
      rw [firstFault?_compoundAssign] at clean
      obtain ⟨own, targetClean, valueClean⟩ := sides_of_or_eq_none clean
      cases operator with
      | arithmetic operator =>
          exact .compoundAssign operator
            (accepted_of_firstFault? target targetClean)
            (accepted_of_firstFault? value valueClean)
      | _ =>
          cases own
  | .select base (.named identifier), clean => by
      rw [firstFault?_select] at clean
      exact .select (accepted_of_firstFault? base clean) identifier
  | .select base (.position _), clean => by
      rw [firstFault?_select] at clean
      cases clean
  | .index base subscript, clean => by
      rw [firstFault?_index] at clean
      exact .index (accepted_of_firstFault? base clean) subscript
  | .call callee arguments, clean => by
      rw [firstFault?_call, Option.or_eq_none_iff] at clean
      obtain ⟨own, argumentsClean⟩ := clean
      have acceptedArguments := accepted_of_partsOfAll arguments argumentsClean
      rcases callee with _ | (name | _ | _) | _
      case path.name =>
          by_cases discards : name = "discard"
          case pos =>
              obtain rfl : arguments = [] := by
                simpa [fault?, discards] using own
              rw [discards]
              exact .discard
          case neg =>
              exact .call discards acceptedArguments
      all_goals cases own
  | .parenthesized inner, clean => by
      rw [firstFault?_parenthesized] at clean
      exact .parenthesized (accepted_of_firstFault? inner clean)
  | .grouped inner, clean => by
      rw [firstFault?_grouped] at clean
      exact .grouped (accepted_of_firstFault? inner clean)
  | .unary .complement operand, clean | .unary .dereference operand, clean => by
      rw [firstFault?_unary (by decide)] at clean
      cases clean

private theorem accepted_of_partsOfAll : ∀ formulas : List Formula,
    (partsOfAll formulas).findSome? fault? = none →
      ∀ formula ∈ formulas, formula.Accepted
  | [], _ => by
      simp
  | formula :: rest, clean => by
      rw [partsOfAll, List.findSome?_append, Option.or_eq_none_iff] at clean
      obtain ⟨formulaClean, restClean⟩ := clean
      exact List.forall_mem_cons.mpr
        ⟨accepted_of_firstFault? formula formulaClean,
          accepted_of_partsOfAll rest restClean⟩

end

/-- The grammar derives a formula exactly when no part of it has a fault. -/
theorem accepted_iff_firstFault? {formula : Formula} :
    formula.Accepted ↔ formula.firstFault? = none :=
  ⟨Accepted.firstFault?, accepted_of_firstFault? formula⟩

/-! ## The code of a formula -/

/-- A formula describes an operand when it is a leaf inside its parentheses
and groups. -/
theorem isOperand_iff_leaf :
    ∀ {formula : Formula}, formula.isOperand = true ↔ formula.bare.Leaf
  | .constant literal => iff_of_true rfl (.constant literal)
  | .path named => iff_of_true rfl (.path named)
  | .parenthesized inner => @isOperand_iff_leaf inner
  | .grouped inner => @isOperand_iff_leaf inner
  | .unary .negate value => by
      cases value with
      | constant literal =>
          exact iff_of_true rfl (.negated literal)
      | _ =>
          constructor <;> rintro ⟨⟩
  | .binary .. | .assign .. | .compoundAssign .. | .select .. | .index ..
  | .call .. | .foreign _ | .unary .complement _
  | .unary .dereference _ => by
      constructor <;> rintro ⟨⟩

/-- A formula is translated up to the first part with a fault. -/
theorem faultOf_code (formula : Formula) :
    faultOf formula.code = formula.firstFault? := by
  rw [code]
  by_cases operand : formula.isOperand = true
  case pos =>
      rw [if_pos operand, faultOf_map]
      exact (operationFaults formula).operand
  case neg =>
      rw [if_neg operand, faultOf_map]
      exact operationFaults formula (Bool.eq_false_iff.mpr operand)

private theorem Constant.fault?_ne_singleOperand (literal : Constant)
    (isNegative : Bool) :
    literal.fault? isNegative ≠ some .singleOperand := by
  cases literal <;> cases isNegative <;> simp [Constant.fault?]

/-- Of all parts only a path that a type qualifies is refused as a single
operand. -/
theorem fault?_eq_singleOperand_iff {part : Formula} :
    part.fault? = some .singleOperand ↔
      ∃ tokens, part = .path (.qualified tokens) := by
  constructor
  · intro faulty
    cases part with
    | path named =>
        cases named with
        | qualified tokens =>
            exact ⟨tokens, rfl⟩
        | _ =>
            cases faulty
    | constant literal =>
        exact absurd faulty (literal.fault?_ne_singleOperand false)
    | unary operator operand =>
        cases operator with
        | negate =>
            cases operand with
            | constant literal =>
                exact absurd faulty (literal.fault?_ne_singleOperand true)
            | _ =>
                cases faulty
        | _ =>
            cases operand <;> cases faulty
    | call callee arguments =>
        rcases callee with _ | (name | _ | _) | _
        case path.name =>
            simp [fault?] at faulty
        all_goals cases faulty
    | binary operator _ _ | compoundAssign operator _ _ =>
        cases operator <;> cases faulty
    | select _ member =>
        cases member <;> cases faulty
    | _ =>
        cases faulty
  · rintro ⟨tokens, rfl⟩
    rfl

/-- The code of an operand converts something to one. -/
theorem OperandCode.tokens_eq (code : OperandCode) :
    ∃ converted, code.tokens = operandFrom converted := by
  cases code with
  | _ =>
      exact ⟨_, by rw [OperandCode.tokens]⟩

/-- The code of an operation calls a factory. -/
theorem OperationCode.tokens_eq (code : OperationCode) :
    ∃ factory arguments, code.tokens = operationBy factory arguments := by
  cases code with
  | _ =>
      exact ⟨_, _, by rw [OperationCode.tokens]⟩

/-- A formula has code exactly when the grammar derives it, and any other is
refused for its first part that has a fault. The code is that of an operand
where the formula is a literal, a minus directly on one or a path, inside any
parentheses and groups, and that of an operation otherwise. The translators of
operands and of operations accept the same formulas. -/
theorem code_accepts_grammar (formula : Formula) :
    ((∃ code, formula.code = .ok code) ↔ formula.Accepted) ∧
    (∀ fault, formula.code = .error fault ↔
      ∃ before part after, formula.parts = before ++ part :: after ∧
        part.fault? = some fault ∧
        ∀ earlier ∈ before, earlier.fault? = none) ∧
    (∀ part : Formula, part.fault? = some .singleOperand ↔
      ∃ tokens, part = .path (.qualified tokens)) ∧
    (∀ code, formula.code = .ok code →
      (formula.bare.Leaf ∧ (∃ operand, code = .operand operand) ∧
        ∃ converted, code.tokens = operandFrom converted) ∨
      (¬ formula.bare.Leaf ∧ (∃ operation, code = .operation operation) ∧
        ∃ factory arguments,
          code.tokens = operationBy factory arguments)) ∧
    ((∃ operand,
        operandCode formula.operationCode formula = .ok operand) ↔
      formula.Accepted) ∧
    (¬ formula.bare.Leaf →
      ((∃ operation, formula.operationCode = .ok operation) ↔
        formula.Accepted) ∧
      operandCode formula.operationCode formula =
        .operation <$> formula.operationCode) := by
  have faults : OperationFaults formula := operationFaults formula
  refine ⟨?_, ?_, fun part => fault?_eq_singleOperand_iff, ?_, ?_, ?_⟩
  · rw [exists_eq_ok_iff, faultOf_code, accepted_iff_firstFault?]
  · intro fault
    rw [eq_error_iff, faultOf_code, Formula.firstFault?,
      List.findSome?_eq_some_iff]
  · intro code coded
    rw [← isOperand_iff_leaf]
    by_cases operand : formula.isOperand = true
    case pos =>
        rw [Formula.code, if_pos operand] at coded
        obtain ⟨code, -, rfl⟩ := map_eq_ok_iff.mp coded
        exact .inl ⟨operand, ⟨code, rfl⟩, code.tokens_eq⟩
    case neg =>
        rw [Formula.code, if_neg operand] at coded
        obtain ⟨code, -, rfl⟩ := map_eq_ok_iff.mp coded
        exact .inr ⟨operand, ⟨code, rfl⟩, code.tokens_eq⟩
  · rw [exists_eq_ok_iff, faults.operand, accepted_iff_firstFault?]
  · intro notLeaf
    have operation : formula.isOperand = false :=
      Bool.eq_false_iff.mpr (mt isOperand_iff_leaf.mp notLeaf)
    rw [exists_eq_ok_iff, faults operation, accepted_iff_firstFault?]
    exact ⟨.rfl, operandCode_eq_of_not_isOperand operation⟩

section Examples

/-- No minus goes before `true`, but one goes before it in parentheses. -/
example :
    code (.unary .negate (.constant (.boolean true))) = .error .literal ∧
      Accepted
        (.unary .negate (.parenthesized (.constant (.boolean true)))) :=
  ⟨rfl, .negation (.parenthesized (.boolean true)) rfl⟩

end Examples

end Shaderwright.Formula
