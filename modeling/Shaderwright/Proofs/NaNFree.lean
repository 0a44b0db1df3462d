import Shaderwright.Proofs.CanonicalTree
import Shaderwright.Proofs.Calls

/-!
Trees without NaN. A function equals itself exactly when no number in its body
is NaN, nor in the body of a function that it calls
(`ShaderFunction.equals_self_iff`).
-/

namespace Shaderwright

/-! ## Numbers -/

/-- The numbers that a visit writes. -/
def Visit.numbers : Visit → List Binary32
  | .literal value => value.components
  | .padding _ _ pad => [pad]
  | _ => []

/-- No number in a body is NaN. -/
def BodyNaNFree (body : List Operation) : Prop :=
  ∀ visit ∈ bodyVisits 1 body, ∀ number ∈ visit.numbers,
    number.isNaN = false

/-- No number in the body of a function is NaN, nor in the body of a function
that it calls, itself or through other functions. -/
structure ShaderFunction.NaNFree (function : ShaderFunction) : Prop where
  own : BodyNaNFree function.body
  called : ∀ callee, CalledFrom function.body callee →
    BodyNaNFree callee.body

theorem Literal.componentsEqual_self_iff (numbers : List Binary32) :
    Literal.componentsEqual numbers numbers = true ↔
      ∀ number ∈ numbers, number.isNaN = false := by
  induction numbers with
  | nil =>
      simp [Literal.componentsEqual]
  | cons number rest inductionHypothesis =>
      simp only [Literal.componentsEqual, Bool.and_eq_true,
        Binary32.equals_self, inductionHypothesis, List.forall_mem_cons]

theorem Literal.equals_self_iff (value : Literal) :
    value.equals value = true ↔
      ∀ number ∈ value.components, number.isNaN = false := by
  rw [← Literal.componentsEqual_self_iff]
  cases value <;>
    simp [Literal.equals, Literal.type, Literal.components,
      Literal.componentsEqual]

/-! ## Visits -/

/-- The numbers of a visit are not NaN, and the function that it calls equals
itself. -/
def Visit.Regular (visit : Visit) : Prop :=
  (∀ number ∈ visit.numbers, number.isNaN = false) ∧
    ∀ function, visit.callee? = some function →
      function.equals function = true

theorem Visit.regular_literal (value : Literal) :
    (Visit.literal value).Regular ↔ value.equals value = true := by
  simp [Visit.Regular, Visit.numbers, Visit.callee?,
    Literal.equals_self_iff]

theorem Visit.regular_padding (source : Operand) (type : ShaderType)
    (pad : Binary32) :
    (Visit.padding source type pad).Regular ↔ pad.equals pad = true := by
  simp [Visit.Regular, Visit.numbers, Visit.callee?, Binary32.equals_self]

theorem Visit.regular_call (position : Position)
    (function : ShaderFunction) (arguments : List Operand) :
    (Visit.operation position (.call function arguments)).Regular ↔
      function.equals function = true := by
  simp [Visit.Regular, Visit.numbers, Visit.callee?]

/-- A visit that writes no number and calls no function. -/
theorem Visit.regular_of_plain {visit : Visit}
    (noNumbers : visit.numbers = []) (noFunction : visit.callee? = none) :
    visit.Regular := by
  simp [Visit.Regular, noNumbers, noFunction]

section Regular

/-- All visits are regular. -/
private def AllRegular (visits : List Visit) : Prop :=
  ∀ visit ∈ visits, visit.Regular

private theorem allRegular_nil : AllRegular [] := by
  simp [AllRegular]

private theorem allRegular_cons (visit : Visit) (rest : List Visit) :
    AllRegular (visit :: rest) ↔ visit.Regular ∧ AllRegular rest :=
  List.forall_mem_cons

private theorem allRegular_append (first second : List Visit) :
    AllRegular (first ++ second) ↔ AllRegular first ∧ AllRegular second :=
  List.forall_mem_append

/-- An operation that calls no function is as regular as its operands. -/
private theorem allRegular_plain_cons {visit : Visit}
    (noNumbers : visit.numbers = []) (noFunction : visit.callee? = none)
    (rest : List Visit) : AllRegular (visit :: rest) ↔ AllRegular rest := by
  rw [allRegular_cons,
    and_iff_right (Visit.regular_of_plain noNumbers noFunction)]

private theorem allRegular_plain {visit : Visit}
    (noNumbers : visit.numbers = []) (noFunction : visit.callee? = none) :
    AllRegular [visit] :=
  (allRegular_plain_cons noNumbers noFunction []).mpr allRegular_nil

private theorem parameter_equals_self (symbol : Parameter) :
    symbol.equals symbol = true := by
  rw [symbol.equals_eq_declaredAlike, symbol.declaredAlike_self]

mutual

private theorem operand_equals_self_iff : ∀ operand : Operand,
    operand.equals operand = true ↔ AllRegular operand.visits
  | .parameter symbol => by
      rw [Operand.equals, Operand.visits]
      exact iff_of_true (parameter_equals_self symbol)
        (allRegular_plain rfl rfl)
  | .literal value => by
      simp [Operand.equals, Operand.visits, Visit.regular_literal,
        allRegular_cons, allRegular_nil]
  | .builtIn source => by
      rw [Operand.equals, Operand.visits]
      exact iff_of_true BEq.rfl (allRegular_plain rfl rfl)
  | .operation node => by
      rw [Operand.equals, Operand.visits,
        operation_equals_self_iff .value node]
  | .raw text => by
      simp [Operand.equals, Operand.visits, allRegular_nil]

private theorem operation_equals_self_iff (position : Position) :
    ∀ node : Operation,
      node.equals node = true ↔ AllRegular (node.visits position)
  | .assign operator assigned value => by
      have targets := operand_equals_self_iff assigned
      have values := operand_equals_self_iff value
      rw [Operation.visits, allRegular_plain_cons rfl rfl]
      cases declared : assigned.declared? with
      | some symbol =>
          -- A declared parameter is equal to itself and writes no number.
          have known : assigned = .operation (.declare symbol) := by
            unfold Operand.declared? at declared
            split at declared
            · cases declared
              rfl
            · cases declared
          subst known
          simp only [Operation.equals, Operand.equals, parameter_equals_self,
            values, BEq.rfl, Bool.and_self, Bool.true_and]
          exact (allRegular_plain_cons rfl rfl value.visits).symm
      | none =>
          simp only [Operation.equals, BEq.rfl, Bool.true_and,
            Bool.and_eq_true, targets, values, allRegular_append]
  | .declare symbol => by
      rw [Operation.equals, Operation.visits]
      exact iff_of_true (parameter_equals_self symbol)
        (allRegular_plain rfl rfl)
  | .arithmetic operator operands => by
      rw [Operation.visits, allRegular_plain_cons rfl rfl,
        ← operandsEqual_self_iff operands]
      simp [Operation.equals]
  | .compare operator left right => by
      rw [Operation.visits, allRegular_plain_cons rfl rfl, allRegular_append,
        ← operand_equals_self_iff left, ← operand_equals_self_iff right]
      simp [Operation.equals]
  | .select base suffix => by
      rw [Operation.visits, allRegular_plain_cons rfl rfl,
        ← operand_equals_self_iff base]
      simp [Operation.equals]
  | .builtIn function arguments => by
      rw [Operation.visits, allRegular_plain_cons rfl rfl,
        ← operandsEqual_self_iff arguments]
      simp [Operation.equals]
  | .ifThen condition body => by
      rw [Operation.visits, allRegular_plain_cons rfl rfl, allRegular_append,
        ← operand_equals_self_iff condition,
        ← operationsEqual_self_iff _ body]
      simp [Operation.equals]
  | .ifElse condition body alternative => by
      rw [Operation.visits, allRegular_plain_cons rfl rfl, allRegular_append,
        allRegular_append, ← operand_equals_self_iff condition,
        ← operationsEqual_self_iff _ body,
        ← operationsEqual_self_iff _ alternative]
      simp [Operation.equals, and_assoc]
  | .loop initial condition step body => by
      rw [Operation.visits, allRegular_plain_cons rfl rfl,
        ← operationsEqual_self_iff _ body]
      simp [Operation.equals]
  | .returnValue value => by
      rw [Operation.visits, allRegular_plain_cons rfl rfl,
        ← operand_equals_self_iff value]
      simp [Operation.equals]
  | .returnVoid => by
      rw [Operation.equals, Operation.visits]
      exact iff_of_true rfl (allRegular_plain rfl rfl)
  | .call function arguments => by
      rw [Operation.visits, allRegular_cons, Visit.regular_call,
        ← operandsEqual_self_iff arguments, Operation.equals,
        Bool.and_eq_true]
  | .construct type operands => by
      rw [Operation.visits, allRegular_plain_cons rfl rfl,
        ← operandsEqual_self_iff operands]
      simp [Operation.equals]
  | .convert source type pad => by
      rw [Operation.visits, allRegular_plain_cons rfl rfl, allRegular_append,
        ← operand_equals_self_iff source]
      simp [Operation.equals, allRegular_cons, allRegular_nil,
        Visit.regular_padding]

private theorem operandsEqual_self_iff : ∀ operands : List Operand,
    operandsEqual operands operands = true ↔
      AllRegular (operandVisits operands)
  | [] => by
      simp [operandsEqual, operandVisits, allRegular_nil]
  | operand :: rest => by
      rw [operandVisits, allRegular_append,
        ← operand_equals_self_iff operand, ← operandsEqual_self_iff rest,
        operandsEqual, Bool.and_eq_true]

private theorem operationsEqual_self_iff (level : Nat) :
    ∀ body : List Operation,
      operationsEqual body body = true ↔
        AllRegular (bodyVisits level body)
  | [] => by
      simp [operationsEqual, bodyVisits, allRegular_nil]
  | operation :: rest => by
      rw [bodyVisits, allRegular_append,
        ← operation_equals_self_iff (.statement level) operation,
        ← operationsEqual_self_iff level rest, operationsEqual,
        Bool.and_eq_true]

end

/-! ## Functions -/

/-- A function equals itself exactly when its body holds no NaN and all that it
calls equals itself. -/
theorem ShaderFunction.equals_self_iff_callees
    (function : ShaderFunction) :
    function.equals function = true ↔
      BodyNaNFree function.body ∧
        ∀ callee ∈ bodyCallees function.body,
          callee.equals callee = true := by
  have parameters (symbols : List Parameter) :
      parametersEqual symbols symbols = true := by
    rw [parametersEqual_iff]
  have regular :
      function.equals function = true ↔
        AllRegular (bodyVisits 1 function.body) := by
    obtain ⟨handle, name, returnType, symbols, body⟩ := function
    simp [ShaderFunction.equals, parameters, operationsEqual_self_iff 1]
  rw [regular]
  constructor
  · intro visits
    refine ⟨fun visit member => (visits visit member).1, ?_⟩
    intro callee called
    obtain ⟨visit, member, calls⟩ := List.mem_filterMap.mp called
    exact (visits visit member).2 callee calls
  · rintro ⟨numbers, callees⟩ visit member
    refine ⟨numbers visit member, fun callee calls => ?_⟩
    exact callees callee (List.mem_filterMap.mpr ⟨visit, member, calls⟩)

end Regular

theorem ShaderFunction.NaNFree.callee {function callee : ShaderFunction}
    (free : function.NaNFree) (called : CalledFrom function.body callee) :
    callee.NaNFree :=
  ⟨free.called callee called,
    fun other below => free.called other (called.trans below)⟩

/-- A function that calls no other one. -/
theorem ShaderFunction.NaNFree.of_noCallees {function : ShaderFunction}
    (own : BodyNaNFree function.body)
    (noCallees : bodyCallees function.body = []) : function.NaNFree :=
  ⟨own, fun _ called => absurd called (not_calledFrom noCallees)⟩

/-- A function equals itself exactly when it holds no NaN. -/
theorem ShaderFunction.equals_self_iff (function : ShaderFunction) :
    function.equals function = true ↔ function.NaNFree := by
  induction function using ShaderFunction.callee_induction with
  | step function inductionHypothesis =>
      rw [ShaderFunction.equals_self_iff_callees]
      constructor
      · rintro ⟨own, callees⟩
        refine ⟨own, fun callee called => ?_⟩
        have free {direct : ShaderFunction}
            (member : direct ∈ bodyCallees function.body) :
            direct.NaNFree :=
          (inductionHypothesis direct member).mp (callees direct member)
        have reached : callee.NaNFree := by
          induction called with
          | direct called =>
              exact free called
          | through _ called reached =>
              exact reached.callee (.direct called)
        exact reached.own
      · intro free
        refine ⟨free.own, fun callee called => ?_⟩
        exact (inductionHypothesis callee called).mpr
          (free.callee (.direct called))

end Shaderwright
