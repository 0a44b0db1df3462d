import Shaderwright.Proofs.Walk

/-!
Calls. A function is larger than the functions that its body calls, so what
holds of a function once it holds of its callees holds of all functions
(`ShaderFunction.callee_induction`), and no function is called from its own
body (`not_calledFrom_self`).
-/

namespace Shaderwright

/-! ## Callees of visits -/

/-- Every function called by a visit has a property. -/
def CalleesSatisfy (property : ShaderFunction → Prop)
    (visits : List Visit) : Prop :=
  ∀ visit ∈ visits, ∀ function : ShaderFunction,
    visit.callee? = some function → property function

namespace CalleesSatisfy

variable {property other : ShaderFunction → Prop}

theorem nil : CalleesSatisfy property [] := by
  intro visit member
  simp at member

theorem cons {visit : Visit} {rest : List Visit}
    (noFunction : visit.callee? = none)
    (later : CalleesSatisfy property rest) :
    CalleesSatisfy property (visit :: rest) := by
  intro first member function called
  rcases List.mem_cons.mp member with rfl | inRest
  · rw [noFunction] at called
    cases called
  · exact later first inRest function called

theorem call {position : Position} {function : ShaderFunction}
    {arguments : List Operand} {rest : List Visit}
    (holds : property function) (later : CalleesSatisfy property rest) :
    CalleesSatisfy property
      (.operation position (.call function arguments) :: rest) := by
  intro first member callee called
  rcases List.mem_cons.mp member with rfl | inRest
  · cases called
    exact holds
  · exact later first inRest callee called

theorem head {visit : Visit} {rest : List Visit}
    (holds : CalleesSatisfy property (visit :: rest))
    {function : ShaderFunction} (called : visit.callee? = some function) :
    property function :=
  holds visit (List.mem_cons_self ..) function called

theorem tail {visit : Visit} {rest : List Visit}
    (holds : CalleesSatisfy property (visit :: rest)) :
    CalleesSatisfy property rest := by
  intro other member
  exact holds other (List.mem_cons_of_mem visit member)

theorem append {first second : List Visit}
    (before : CalleesSatisfy property first)
    (after : CalleesSatisfy property second) :
    CalleesSatisfy property (first ++ second) := by
  intro visit member function called
  rcases List.mem_append.mp member with early | late
  · exact before visit early function called
  · exact after visit late function called

theorem mono {visits : List Visit}
    (holds : CalleesSatisfy property visits)
    (weaker : ∀ function, property function → other function) :
    CalleesSatisfy other visits := by
  intro visit member function called
  exact weaker function (holds visit member function called)

theorem of_mem_bodyCallees {body : List Operation}
    (holds : CalleesSatisfy property (bodyVisits 1 body))
    {function : ShaderFunction} (called : function ∈ bodyCallees body) :
    property function := by
  obtain ⟨visit, member, equality⟩ := List.mem_filterMap.mp called
  exact holds visit member function equality

theorem of_bodyCallees {body : List Operation}
    (holds : ∀ function ∈ bodyCallees body, property function) :
    CalleesSatisfy property (bodyVisits 1 body) := by
  intro visit member function called
  exact holds function (List.mem_filterMap.mpr ⟨visit, member, called⟩)

end CalleesSatisfy

/-! ## Callees are smaller -/

section Size

/-- Every function called by a visit is smaller than a bound. -/
private abbrev CalleesBelow (bound : Nat) (visits : List Visit) : Prop :=
  CalleesSatisfy (fun function => sizeOf function < bound) visits

private theorem CalleesBelow.weaken {bound larger : Nat}
    {visits : List Visit} (below : CalleesBelow bound visits)
    (le : bound ≤ larger) : CalleesBelow larger visits :=
  below.mono fun _ smaller => Nat.lt_of_lt_of_le smaller le

mutual

private theorem operandCalleesBelow :
    ∀ operand : Operand, CalleesBelow (sizeOf operand) operand.visits
  | .parameter _ | .literal _ | .builtIn _ => .cons rfl .nil
  | .raw _ => .nil
  | .operation node =>
      (operationCalleesBelow .value node).weaken (by simp)

private theorem operationCalleesBelow (position : Position) :
    ∀ node : Operation, CalleesBelow (sizeOf node) (node.visits position)
  | .assign operator assigned value => by
      have valueBelow := operandCalleesBelow value
      rw [Operation.visits]
      cases assigned.declared? with
      | some symbol =>
          exact .cons rfl (.cons rfl (valueBelow.weaken (by simp)))
      | none =>
          have assignedBelow := operandCalleesBelow assigned
          exact .cons rfl (.append (assignedBelow.weaken (by simp; omega))
            (valueBelow.weaken (by simp)))
  | .declare _ => .cons rfl .nil
  | .arithmetic _ operands | .builtIn _ operands
  | .construct _ operands =>
      .cons rfl ((operandListCalleesBelow operands).weaken (by simp))
  | .compare operator left right =>
      .cons rfl (.append ((operandCalleesBelow left).weaken (by simp; omega))
        ((operandCalleesBelow right).weaken (by simp)))
  | .select base suffix =>
      .cons rfl ((operandCalleesBelow base).weaken (by simp; omega))
  | .ifThen condition body =>
      .cons rfl (.append
        ((operandCalleesBelow condition).weaken (by simp; omega))
        ((bodyCalleesBelow _ body).weaken (by simp)))
  | .ifElse condition body alternative =>
      .cons rfl (.append
        ((operandCalleesBelow condition).weaken (by simp; omega))
        (.append ((bodyCalleesBelow _ body).weaken (by simp; omega))
          ((bodyCalleesBelow _ alternative).weaken (by simp))))
  | .loop initial condition step body =>
      .cons rfl ((bodyCalleesBelow _ body).weaken (by simp))
  | .returnValue value =>
      .cons rfl ((operandCalleesBelow value).weaken (by simp))
  | .returnVoid => .cons rfl .nil
  | .call function arguments =>
      .call (by simp; omega)
        ((operandListCalleesBelow arguments).weaken (by simp))
  | .convert source type pad =>
      .cons rfl (.append
        ((operandCalleesBelow source).weaken (by simp; omega))
        (.cons rfl .nil))

private theorem operandListCalleesBelow : ∀ operands : List Operand,
    CalleesBelow (sizeOf operands) (operandVisits operands)
  | [] => .nil
  | operand :: rest =>
      .append ((operandCalleesBelow operand).weaken (by simp; omega))
        ((operandListCalleesBelow rest).weaken (by simp))

private theorem bodyCalleesBelow (level : Nat) :
    ∀ body : List Operation,
      CalleesBelow (sizeOf body) (bodyVisits level body)
  | [] => .nil
  | operation :: rest =>
      .append
        ((operationCalleesBelow (.statement level) operation).weaken
          (by simp; omega))
        ((bodyCalleesBelow level rest).weaken (by simp))

end

end Size

theorem sizeOf_callee_lt {body : List Operation}
    {function : ShaderFunction}
    (called : function ∈ bodyCallees body) :
    sizeOf function < sizeOf body :=
  (bodyCalleesBelow 1 body).of_mem_bodyCallees called

theorem sizeOf_callee_lt_caller {caller function : ShaderFunction}
    (called : function ∈ bodyCallees caller.body) :
    sizeOf function < sizeOf caller := by
  have below := sizeOf_callee_lt called
  obtain ⟨handle, name, returnType, parameters, body⟩ := caller
  simp at below ⊢
  omega

/-- What holds of a function once it holds of all that its body calls holds of
every function. -/
theorem ShaderFunction.callee_induction
    {motive : ShaderFunction → Prop}
    (step : ∀ function : ShaderFunction,
      (∀ callee ∈ bodyCallees function.body, motive callee) →
        motive function)
    (function : ShaderFunction) : motive function :=
  step function fun callee called =>
    have _ := sizeOf_callee_lt_caller called
    ShaderFunction.callee_induction step callee
termination_by sizeOf function

/-! ## Calls through other functions -/

/-- The functions that a body calls itself or through other functions. -/
inductive CalledFrom (body : List Operation) : ShaderFunction → Prop
  | direct {function : ShaderFunction}
      (called : function ∈ bodyCallees body) :
      CalledFrom body function
  | through {caller function : ShaderFunction}
      (reached : CalledFrom body caller)
      (called : function ∈ bodyCallees caller.body) :
      CalledFrom body function

theorem CalledFrom.trans {body : List Operation}
    {caller function : ShaderFunction}
    (reached : CalledFrom body caller)
    (called : CalledFrom caller.body function) :
    CalledFrom body function := by
  induction called with
  | direct called =>
      exact .through reached called
  | through _ called inductionHypothesis =>
      exact .through inductionHypothesis called

theorem CalledFrom.sizeOf_lt {body : List Operation}
    {function : ShaderFunction} (called : CalledFrom body function) :
    sizeOf function < sizeOf body := by
  induction called with
  | direct called =>
      exact sizeOf_callee_lt called
  | through _ called inductionHypothesis =>
      exact Nat.lt_trans (sizeOf_callee_lt_caller called)
        inductionHypothesis

/-- A body without calls calls nothing through other functions. -/
theorem not_calledFrom {body : List Operation}
    (noCallees : bodyCallees body = []) {function : ShaderFunction} :
    ¬ CalledFrom body function := by
  intro called
  induction called with
  | direct called =>
      rw [noCallees] at called
      cases called
  | through _ _ unreachable =>
      exact unreachable

/-- No function is called from its own body. -/
theorem not_calledFrom_self (function : ShaderFunction) :
    ¬ CalledFrom function.body function := by
  intro called
  have smaller := called.sizeOf_lt
  obtain ⟨handle, name, returnType, parameters, body⟩ := function
  simp only [ShaderFunction.mk.sizeOf_spec] at smaller
  omega

end Shaderwright
