import Shaderwright.Proofs.Conditions
import Shaderwright.Tree.Build

/-!
Admissible trees, part by part. Whether all that the walk over an operation
meets is admissible can be read off the operation and its operands; of a body,
it is what holds of every operation in it (`forall_mem_bodyVisits`).
-/

namespace Shaderwright

/-! ## Visits of lists -/

theorem operandVisits_eq_flatMap (operands : List Operand) :
    operandVisits operands = operands.flatMap Operand.visits := by
  induction operands with
  | nil =>
      rfl
  | cons operand rest inductionHypothesis =>
      rw [operandVisits, inductionHypothesis, List.flatMap_cons]

theorem bodyVisits_eq_flatMap (level : Nat) (body : List Operation) :
    bodyVisits level body =
      body.flatMap (Operation.visits (.statement level)) := by
  induction body with
  | nil =>
      rfl
  | cons node rest inductionHypothesis =>
      rw [bodyVisits, inductionHypothesis, List.flatMap_cons]

theorem forall_mem_operandVisits {property : Visit → Prop}
    {operands : List Operand} :
    (∀ visit ∈ operandVisits operands, property visit) ↔
      ∀ operand ∈ operands, ∀ visit ∈ operand.visits, property visit := by
  rw [operandVisits_eq_flatMap]
  exact List.forall_mem_flatMap

theorem forall_mem_bodyVisits {property : Visit → Prop} {level : Nat}
    {body : List Operation} :
    (∀ visit ∈ bodyVisits level body, property visit) ↔
      ∀ node ∈ body, ∀ visit ∈ node.visits (.statement level),
        property visit := by
  rw [bodyVisits_eq_flatMap]
  exact List.forall_mem_flatMap

/-! ## Operands and operations -/

section Parts

variable (target : Target) (locals : List Parameter)

/-- All that the walk over an operand meets is admissible. -/
def Operand.AllAdmissible (operand : Operand) : Prop :=
  ∀ visit ∈ operand.visits, visit.Admissible target locals

/-- All that the walk over an operation meets is admissible. -/
def Operation.AllAdmissible (position : Position) (node : Operation) :
    Prop :=
  ∀ visit ∈ node.visits position, visit.Admissible target locals

variable {target locals} {position : Position}

namespace Operand

theorem allAdmissible_parameter {symbol : Parameter} :
    (parameter symbol).AllAdmissible target locals ↔
      ∀ known ∈ locals, known.name = symbol.name →
        known.symbol = symbol.symbol := by
  simp [AllAdmissible, visits, Visit.Admissible]

/-- A local variable. -/
theorem allAdmissible_local (alike : DeclaredAlike locals)
    {symbol : Parameter} (isLocal : symbol ∈ locals) :
    (parameter symbol).AllAdmissible target locals :=
  allAdmissible_parameter.mpr fun known member =>
    alike known member symbol isLocal

/-- A parameter of the stage. -/
theorem allAdmissible_stage {symbol : Parameter}
    (free : symbol.name ∉ locals.map Parameter.name) :
    (parameter symbol).AllAdmissible target locals :=
  allAdmissible_parameter.mpr fun _ member named =>
    absurd (named ▸ List.mem_map_of_mem member) free

@[simp]
theorem allAdmissible_literal {value : Literal} :
    (literal value).AllAdmissible target locals ↔
      (value.type = .scalar ∨ value.type = .boolean ∨
        target.Maps value.type) ∧
        ∀ number ∈ value.components, number.isFinite = true := by
  simp [AllAdmissible, visits, Visit.Admissible]

@[simp]
theorem allAdmissible_builtIn {source : BuiltInVariable} :
    (builtIn source).AllAdmissible target locals ↔
      source.availableIn target.stage = true := by
  simp [AllAdmissible, visits, Visit.Admissible]

@[simp]
theorem allAdmissible_operation {node : Operation} :
    (operation node).AllAdmissible target locals ↔
      node.AllAdmissible target locals .value := by
  rw [AllAdmissible, visits, Operation.AllAdmissible]

end Operand

namespace Operation

/-- A declaration with a first value. -/
@[simp]
theorem allAdmissible_introduce {symbol : Parameter} {value : Operand} :
    (introduce symbol value).AllAdmissible target locals position ↔
      target.Maps symbol.type ∧ value.AllAdmissible target locals := by
  simp [introduce, set, AllAdmissible, Operand.AllAdmissible, visits,
    Operand.declared?, Visit.Admissible, Admissible, Operand.Assignable]

/-- An assignment to what has been declared before. -/
theorem allAdmissible_assign {operator : AssignmentOperator}
    {assigned value : Operand} (known : assigned.declared? = none) :
    (assign operator assigned value).AllAdmissible target locals position ↔
      assigned.Assignable locals ∧ assigned.AllAdmissible target locals ∧
        value.AllAdmissible target locals := by
  simp only [AllAdmissible, Operand.AllAdmissible, visits, known,
    List.forall_mem_cons, List.forall_mem_append, Visit.Admissible,
    Admissible]

/-- Adding to a local variable. -/
theorem allAdmissible_addTo (alike : DeclaredAlike locals)
    {symbol : Parameter} (isLocal : symbol ∈ locals) {value : Operand} :
    (addTo symbol value).AllAdmissible target locals position ↔
      value.AllAdmissible target locals := by
  have assignable : (Operand.parameter symbol).Assignable locals :=
    Or.inl ⟨symbol, isLocal, rfl⟩
  have known : (Operand.parameter symbol).AllAdmissible target locals :=
    Operand.allAdmissible_local alike isLocal
  rw [addTo, allAdmissible_assign rfl]
  exact ⟨fun parts => parts.2.2, fun value => ⟨assignable, known, value⟩⟩

@[simp]
theorem allAdmissible_arithmetic {operator : ArithmeticOperator}
    {operands : List Operand} :
    (arithmetic operator operands).AllAdmissible target locals position ↔
      2 ≤ operands.length ∧
        ∀ operand ∈ operands, operand.AllAdmissible target locals := by
  simp only [AllAdmissible, Operand.AllAdmissible, visits,
    List.forall_mem_cons, forall_mem_operandVisits, Visit.Admissible,
    Admissible]

@[simp]
theorem allAdmissible_compare {operator : ComparisonOperator}
    {left right : Operand} :
    (compare operator left right).AllAdmissible target locals position ↔
      left.AllAdmissible target locals ∧
        right.AllAdmissible target locals := by
  simp only [AllAdmissible, Operand.AllAdmissible, visits,
    List.forall_mem_cons, List.forall_mem_append, Visit.Admissible,
    Admissible, true_and]

@[simp]
theorem allAdmissible_select {base : Operand} {suffix : String} :
    (select base suffix).AllAdmissible target locals position ↔
      base.AllAdmissible target locals := by
  simp only [AllAdmissible, Operand.AllAdmissible, visits,
    List.forall_mem_cons, Visit.Admissible, Admissible, true_and]

@[simp]
theorem allAdmissible_builtIn {function : BuiltInFunction}
    {arguments : List Operand} :
    (builtIn function arguments).AllAdmissible target locals position ↔
      (arguments.length = function.arity ∧
        (function = .discard → position ≠ .value)) ∧
        ∀ operand ∈ arguments, operand.AllAdmissible target locals := by
  simp only [AllAdmissible, Operand.AllAdmissible, visits,
    List.forall_mem_cons, forall_mem_operandVisits, Visit.Admissible,
    Admissible]

@[simp]
theorem allAdmissible_ifThen {condition : Operand}
    {body : List Operation} :
    (ifThen condition body).AllAdmissible target locals position ↔
      position ≠ .value ∧ condition.AllAdmissible target locals ∧
        ∀ node ∈ body,
          node.AllAdmissible target locals
            (.statement (position.depth + 1)) := by
  simp only [AllAdmissible, Operand.AllAdmissible, visits,
    List.forall_mem_cons, List.forall_mem_append, forall_mem_bodyVisits,
    Visit.Admissible, Admissible]

@[simp]
theorem allAdmissible_loop {initial condition step : String}
    {body : List Operation} :
    (loop initial condition step body).AllAdmissible target locals
        position ↔
      position ≠ .value ∧
        ∀ node ∈ body,
          node.AllAdmissible target locals
            (.statement (position.depth + 1)) := by
  simp only [AllAdmissible, visits, List.forall_mem_cons,
    forall_mem_bodyVisits, Visit.Admissible, Admissible]

@[simp]
theorem allAdmissible_returnValue {value : Operand} :
    (returnValue value).AllAdmissible target locals position ↔
      position ≠ .value ∧ value.AllAdmissible target locals := by
  simp only [AllAdmissible, Operand.AllAdmissible, visits,
    List.forall_mem_cons, Visit.Admissible, Admissible]

@[simp]
theorem allAdmissible_call {function : ShaderFunction}
    {arguments : List Operand} :
    (call function arguments).AllAdmissible target locals position ↔
      arguments.length = function.parameters.length ∧
        ∀ operand ∈ arguments, operand.AllAdmissible target locals := by
  simp only [AllAdmissible, Operand.AllAdmissible, visits,
    List.forall_mem_cons, forall_mem_operandVisits, Visit.Admissible,
    Admissible]

@[simp]
theorem allAdmissible_convert {source : Operand} {type : ShaderType}
    {pad : Binary32} :
    (convert source type pad).AllAdmissible target locals position ↔
      ((∃ found wanted, source.components? = some found ∧
        type.components? = some wanted ∧ found ≤ wanted) ∧
        target.Maps type) ∧
        source.AllAdmissible target locals ∧
          ∀ found wanted, source.components? = some found →
            type.components? = some wanted → found < wanted →
              pad.isFinite = true := by
  simp only [AllAdmissible, Operand.AllAdmissible, visits,
    List.forall_mem_cons, List.forall_mem_append, List.not_mem_nil,
    false_implies, implies_true, and_true, Visit.Admissible, Admissible]

end Operation

/-- A body is acceptable if its local variables agree and each of its
operations is admissible throughout. -/
theorem Scope.acceptable_iff {scope : Scope} :
    scope.Acceptable target ↔
      DeclaredAlike scope.locals ∧
        ∀ node ∈ scope.body,
          node.AllAdmissible target scope.locals (.statement 1) := by
  have visits_iff :
      (∀ visit ∈ scope.visits, visit.Admissible target scope.locals) ↔
        ∀ node ∈ scope.body,
          node.AllAdmissible target scope.locals (.statement 1) :=
    forall_mem_bodyVisits
  rw [← visits_iff]
  exact ⟨fun acceptable => ⟨acceptable.localsAlike, acceptable.visits⟩,
    fun conditions => ⟨conditions.1, conditions.2⟩⟩

end Parts

end Shaderwright
