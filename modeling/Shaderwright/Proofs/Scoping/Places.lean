import Shaderwright.Proofs.Conditions
import Shaderwright.Proofs.Scoping.Readings

/-!
The places of declarations in a tree. A declaration stands by itself or is the
target of an assignment, and the walk over a body meets every declaration in
one such place, in the order of the text (`bodyVisits_declare`).
-/

namespace Shaderwright

/-- A declaration in its place: by itself, or as the target of an
assignment. -/
inductive PlacedDeclaration where
  | bare (position : Position) (symbol : Parameter)
  | target (position : Position) (symbol : Parameter)
      (operator : AssignmentOperator) (value : Operand)

def PlacedDeclaration.symbol : PlacedDeclaration → Parameter
  | bare _ symbol => symbol
  | target _ symbol _ _ => symbol

/-- The place of a declaration that a visit finds. -/
def Visit.placed? : Visit → Option PlacedDeclaration
  | .operation position (.declare symbol) => some (.bare position symbol)
  | .operation position (.assign operator assigned value) =>
      assigned.declared?.map fun symbol =>
        .target position symbol operator value
  | _ => none

/-- The declarations of a body in their places, in order. -/
def Scope.placedDeclarations (scope : Scope) : List PlacedDeclaration :=
  scope.visits.filterMap Visit.placed?

/-- A visit that has to do with no declaration. -/
def Visit.IsSilent : Visit → Prop
  | .introduced _ => False
  | .operation _ (.declare _) => False
  | .operation _ (.assign _ assigned _) => assigned.declared? = none
  | _ => True

/-- A walk meets declarations in the given places. Behind an assignment to a
declaration it meets the target of the assignment. -/
inductive Places : List Visit → List PlacedDeclaration → Prop
  | nil : Places [] []
  | silent {visit : Visit} {visits : List Visit}
      {places : List PlacedDeclaration} (isSilent : visit.IsSilent)
      (rest : Places visits places) : Places (visit :: visits) places
  | bare {position : Position} {symbol : Parameter} {visits : List Visit}
      {places : List PlacedDeclaration} (rest : Places visits places) :
      Places (.operation position (.declare symbol) :: visits)
        (.bare position symbol :: places)
  | target {position : Position} {symbol : Parameter}
      {operator : AssignmentOperator} {value : Operand}
      {visits : List Visit} {places : List PlacedDeclaration}
      (rest : Places visits places) :
      Places
        (.operation position
            (.assign operator (.operation (.declare symbol)) value) ::
          .introduced symbol :: visits)
        (.target position symbol operator value :: places)

theorem Places.append {first second : List Visit}
    {places others : List PlacedDeclaration} (left : Places first places)
    (right : Places second others) :
    Places (first ++ second) (places ++ others) := by
  induction left with
  | nil =>
      exact right
  | silent isSilent _ inductionHypothesis =>
      exact .silent isSilent inductionHypothesis
  | bare _ inductionHypothesis =>
      exact .bare inductionHypothesis
  | target _ inductionHypothesis =>
      exact .target inductionHypothesis

/-! ## Declarations of the tree -/

/-- The declarations that a walk meets, each one in a place. -/
def Declares (visits : List Visit) (symbols : List Parameter) : Prop :=
  ∃ places, Places visits places ∧
    places.map PlacedDeclaration.symbol = symbols

namespace Declares

variable {first second : List Visit} {symbols others : List Parameter}

theorem nil : Declares [] [] :=
  ⟨[], .nil, rfl⟩

theorem append (left : Declares first symbols)
    (right : Declares second others) :
    Declares (first ++ second) (symbols ++ others) := by
  obtain ⟨places, met, rfl⟩ := left
  obtain ⟨later, metLater, rfl⟩ := right
  exact ⟨places ++ later, met.append metLater, List.map_append⟩

theorem silent {visit : Visit} (declares : Declares first symbols)
    (isSilent : visit.IsSilent) : Declares (visit :: first) symbols := by
  obtain ⟨places, met, same⟩ := declares
  exact ⟨places, .silent isSilent met, same⟩

end Declares

mutual

theorem operandVisits_declare : ∀ operand : Operand,
    Declares operand.visits operand.declarations
  | .parameter _ | .literal _ | .builtIn _ => by
      exact .silent .nil trivial
  | .raw _ => by
      exact .nil
  | .operation node => by
      rw [Operand.visits, Operand.declarations]
      exact operationVisits_declare .value node

theorem operationVisits_declare (position : Position) :
    ∀ node : Operation, Declares (node.visits position) node.declarations
  | .assign operator assigned value => by
      have right := operandVisits_declare value
      rw [Operation.visits, Operation.declarations]
      cases declared : assigned.declared? with
      | some symbol =>
          obtain rfl := Operand.eq_declare_of_declared? declared
          obtain ⟨places, met, same⟩ := right
          exact ⟨.target position symbol operator value :: places,
            .target met, congrArg (symbol :: ·) same⟩
      | none =>
          have left := operandVisits_declare assigned
          exact (left.append right).silent declared
  | .declare symbol => by
      exact ⟨[.bare position symbol], .bare .nil, rfl⟩
  | .returnVoid => by
      exact .silent .nil trivial
  | .compare _ left right => by
      have operands :=
        (operandVisits_declare left).append (operandVisits_declare right)
      exact operands.silent trivial
  | .arithmetic _ operands | .builtIn _ operands | .call _ operands
  | .construct _ operands => by
      exact (operandListVisits_declare operands).silent trivial
  | .select operand _ | .returnValue operand => by
      exact (operandVisits_declare operand).silent trivial
  | .convert source type pad => by
      have padding : Declares [.padding source type pad] [] :=
        .silent .nil trivial
      have all := (operandVisits_declare source).append padding
      rw [List.append_nil] at all
      exact all.silent trivial
  | .ifThen condition body => by
      have inner := bodyVisits_declare (position.depth + 1) body
      exact ((operandVisits_declare condition).append inner).silent trivial
  | .ifElse condition body alternative => by
      have inner := bodyVisits_declare (position.depth + 1) body
      have other := bodyVisits_declare (position.depth + 1) alternative
      rw [Operation.declarations, List.append_assoc]
      exact ((operandVisits_declare condition).append
        (inner.append other)).silent trivial
  | .loop _ _ _ body => by
      have inner := bodyVisits_declare (position.depth + 1) body
      exact inner.silent trivial

theorem operandListVisits_declare : ∀ operands : List Operand,
    Declares (operandVisits operands) (operandDeclarations operands)
  | [] => by
      exact .nil
  | operand :: rest => by
      have first := operandVisits_declare operand
      exact first.append (operandListVisits_declare rest)

/-- The walk over a body meets its declarations, each one in a place and in
the order of the text. -/
theorem bodyVisits_declare (level : Nat) : ∀ body : List Operation,
    Declares (bodyVisits level body) (bodyDeclarations body)
  | [] => by
      exact .nil
  | operation :: rest => by
      have first := operationVisits_declare (.statement level) operation
      exact first.append (bodyVisits_declare level rest)

end

/-! ## What places tell of visits -/

theorem Visit.IsSilent.placed?_eq_none {visit : Visit}
    (isSilent : visit.IsSilent) : visit.placed? = none := by
  cases visit with
  | operation position node =>
      cases node with
      | assign operator assigned value =>
          have none : assigned.declared? = none := isSilent
          rw [Visit.placed?, none, Option.map_none]
      | declare symbol =>
          exact isSilent.elim
      | _ =>
          rfl
  | _ =>
      rfl

theorem Places.eq_filterMap {visits : List Visit}
    {places : List PlacedDeclaration} (met : Places visits places) :
    visits.filterMap Visit.placed? = places := by
  induction met with
  | nil =>
      rfl
  | silent isSilent _ inductionHypothesis =>
      rw [List.filterMap_cons_none isSilent.placed?_eq_none]
      exact inductionHypothesis
  | bare _ inductionHypothesis =>
      exact congrArg (_ :: ·) inductionHypothesis
  | target _ inductionHypothesis =>
      exact congrArg (_ :: ·) inductionHypothesis

/-- The visits in which a placed declaration is met. -/
def PlacedDeclaration.visits : PlacedDeclaration → List Visit
  | bare position symbol => [.operation position (.declare symbol)]
  | target position symbol operator value =>
      [ .operation position
          (.assign operator (.operation (.declare symbol)) value),
        .introduced symbol ]

theorem Places.visits_subset {visits : List Visit}
    {places : List PlacedDeclaration} (met : Places visits places)
    {placed : PlacedDeclaration} (member : placed ∈ places) :
    ∀ visit ∈ placed.visits, visit ∈ visits := by
  induction met with
  | nil =>
      cases member
  | silent _ _ inductionHypothesis =>
      intro visit found
      exact List.mem_cons_of_mem _ (inductionHypothesis member visit found)
  | bare _ inductionHypothesis =>
      intro visit found
      rcases List.mem_cons.mp member with rfl | later
      · rw [List.mem_singleton.mp found]
        exact List.mem_cons_self
      · exact List.mem_cons_of_mem _ (inductionHypothesis later visit found)
  | target _ inductionHypothesis =>
      intro visit found
      rcases List.mem_cons.mp member with rfl | later
      · exact List.mem_append_left _ found
      · exact List.mem_append_right [_, _]
          (inductionHypothesis later visit found)

namespace Scope

theorem places (scope : Scope) :
    Places scope.visits scope.placedDeclarations := by
  obtain ⟨places, met, _⟩ := bodyVisits_declare 1 scope.body
  rw [placedDeclarations, visits, met.eq_filterMap]
  exact met

/-- Every declaration of a body has its place. -/
theorem map_symbol_placedDeclarations (scope : Scope) :
    scope.placedDeclarations.map PlacedDeclaration.symbol =
      bodyDeclarations scope.body := by
  obtain ⟨places, met, same⟩ := bodyVisits_declare 1 scope.body
  rw [placedDeclarations, visits, met.eq_filterMap]
  exact same

end Scope

end Shaderwright
