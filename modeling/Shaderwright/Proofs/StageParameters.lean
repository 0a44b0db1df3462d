import Shaderwright.Proofs.EqualFunctions

/-!
The naive walk for the parameters of the stage: depth first, with the body of
a function at every call of it. Equal functions use the same parameters, and
`firstOccurrences` keeps of each name what is met first.
-/

namespace Shaderwright

/-! ## The naive walk -/

mutual

/-- The parameters that an operand uses beyond the local variables, in the
order in which they are met. -/
def Operand.stageParameters (locals : List Parameter) :
    Operand → List Parameter
  | .parameter symbol =>
      if locals.any fun known => known.name == symbol.name then
        []
      else
        [symbol]
  | .literal _ => []
  | .builtIn _ => []
  | .operation node => node.stageParameters locals
  | .raw _ => []

/-- Those of an operation. A call has those of the function first. -/
def Operation.stageParameters (locals : List Parameter) :
    Operation → List Parameter
  | .assign _ assigned value =>
      assigned.stageParameters locals ++ value.stageParameters locals
  | .declare _ => []
  | .arithmetic _ operands => operandStageParameters locals operands
  | .compare _ left right =>
      left.stageParameters locals ++ right.stageParameters locals
  | .select base _ => base.stageParameters locals
  | .builtIn _ arguments => operandStageParameters locals arguments
  | .ifThen condition body =>
      condition.stageParameters locals ++ bodyStageParameters locals body
  | .ifElse condition body alternative =>
      condition.stageParameters locals ++
        (bodyStageParameters locals body ++
          bodyStageParameters locals alternative)
  | .loop _ _ _ body => bodyStageParameters locals body
  | .returnValue value => value.stageParameters locals
  | .returnVoid => []
  | .call function arguments =>
      function.stageParameters ++ operandStageParameters locals arguments
  | .construct _ operands => operandStageParameters locals operands
  | .convert source _ _ => source.stageParameters locals

/-- Those of the body of a function, under its own local variables. -/
def ShaderFunction.stageParameters : ShaderFunction → List Parameter
  | ⟨_, _, _, parameters, body⟩ =>
      bodyStageParameters (parameters ++ bodyDeclarations body) body

/-- Those of a list of operands. -/
def operandStageParameters (locals : List Parameter) :
    List Operand → List Parameter
  | [] => []
  | operand :: rest =>
      operand.stageParameters locals ++ operandStageParameters locals rest

/-- Those of a body. -/
def bodyStageParameters (locals : List Parameter) :
    List Operation → List Parameter
  | [] => []
  | operation :: rest =>
      operation.stageParameters locals ++ bodyStageParameters locals rest

end

/-- The parameters that a shader uses beyond its local variables, in the order
of the naive walk from its entry point. -/
def Shader.stageParameters (shader : Shader) : List Parameter :=
  bodyStageParameters shader.entry.locals shader.operations

/-! ## The walk by visits -/

/-- What a visit by itself adds to the naive walk. -/
def Visit.stageParameters (locals : List Parameter) :
    Visit → List Parameter
  | .parameter symbol => (Operand.parameter symbol).stageParameters locals
  | .operation _ (.call function _) => function.stageParameters
  | _ => []

section Visits

variable (locals : List Parameter)

mutual

private theorem operandStageParameters_eq : ∀ operand : Operand,
    operand.stageParameters locals =
      operand.visits.flatMap (Visit.stageParameters locals)
  | .parameter symbol => by
      simp [Operand.visits, Visit.stageParameters]
  | .literal value => by
      simp [Operand.stageParameters, Operand.visits, Visit.stageParameters]
  | .builtIn source => by
      simp [Operand.stageParameters, Operand.visits, Visit.stageParameters]
  | .operation node => by
      rw [Operand.stageParameters, Operand.visits]
      exact operationStageParameters_eq .value node
  | .raw text => by
      simp [Operand.stageParameters, Operand.visits]

private theorem operationStageParameters_eq (position : Position) :
    ∀ node : Operation,
      node.stageParameters locals =
        (node.visits position).flatMap (Visit.stageParameters locals)
  | .assign operator assigned value => by
      have valueParameters := operandStageParameters_eq value
      rw [Operation.stageParameters, Operation.visits, valueParameters]
      cases declares : assigned.declared? with
      | some symbol =>
          have noParameters : assigned.stageParameters locals = [] := by
            unfold Operand.declared? at declares
            split at declares
            · simp [Operand.stageParameters, Operation.stageParameters]
            · cases declares
          simp [Visit.stageParameters, noParameters]
      | none =>
          simp [Visit.stageParameters, operandStageParameters_eq assigned]
  | .declare symbol => by
      simp [Operation.stageParameters, Operation.visits,
        Visit.stageParameters]
  | .compare operator left right => by
      simp [Operation.stageParameters, Operation.visits,
        Visit.stageParameters, operandStageParameters_eq left,
        operandStageParameters_eq right]
  | .select base suffix => by
      simp [Operation.stageParameters, Operation.visits,
        Visit.stageParameters, operandStageParameters_eq base]
  | .ifThen condition body => by
      simp [Operation.stageParameters, Operation.visits,
        Visit.stageParameters, operandStageParameters_eq condition,
        bodyStageParameters_eq (position.depth + 1) body]
  | .ifElse condition body alternative => by
      simp [Operation.stageParameters, Operation.visits,
        Visit.stageParameters, operandStageParameters_eq condition,
        bodyStageParameters_eq (position.depth + 1) body,
        bodyStageParameters_eq (position.depth + 1) alternative]
  | .loop initial condition step body => by
      simp [Operation.stageParameters, Operation.visits,
        Visit.stageParameters, bodyStageParameters_eq (position.depth + 1) body]
  | .returnValue value => by
      simp [Operation.stageParameters, Operation.visits,
        Visit.stageParameters, operandStageParameters_eq value]
  | .returnVoid => by
      simp [Operation.stageParameters, Operation.visits,
        Visit.stageParameters]
  | .arithmetic _ operands | .builtIn _ operands | .call _ operands
  | .construct _ operands => by
      simp [Operation.stageParameters, Operation.visits,
        Visit.stageParameters, operandListStageParameters_eq operands]
  | .convert source type pad => by
      simp [Operation.stageParameters, Operation.visits,
        Visit.stageParameters, operandStageParameters_eq source]

private theorem operandListStageParameters_eq : ∀ operands : List Operand,
    operandStageParameters locals operands =
      (operandVisits operands).flatMap (Visit.stageParameters locals)
  | [] => by
      simp [operandStageParameters, operandVisits]
  | operand :: rest => by
      simp [operandStageParameters, operandVisits,
        operandStageParameters_eq operand,
        operandListStageParameters_eq rest]

/-- The naive walk over a body goes through its visits. -/
theorem bodyStageParameters_eq (level : Nat) : ∀ body : List Operation,
    bodyStageParameters locals body =
      (bodyVisits level body).flatMap (Visit.stageParameters locals)
  | [] => by
      simp [bodyStageParameters, bodyVisits]
  | operation :: rest => by
      simp [bodyStageParameters, bodyVisits,
        operationStageParameters_eq (.statement level) operation,
        bodyStageParameters_eq level rest]

end

end Visits

theorem ShaderFunction.stageParameters_eq (function : ShaderFunction) :
    function.stageParameters =
      function.scope.visits.flatMap
        (Visit.stageParameters function.scope.locals) := by
  obtain ⟨handle, name, returnType, parameters, body⟩ := function
  rw [ShaderFunction.stageParameters]
  exact bodyStageParameters_eq _ 1 body

/-! ## Canonical functions -/

/-- A canonical visit adds the canonical form of what the visit adds, if its
callee does. -/
private theorem visitStageParameters_canonical (locals : List Parameter)
    (visit : Visit)
    (calleeHolds : ∀ function, visit.callee? = some function →
      function.canonical.stageParameters =
        function.stageParameters.map Parameter.canonical) :
    visit.canonical.stageParameters (locals.map Parameter.canonical) =
      (visit.stageParameters locals).map Parameter.canonical := by
  cases visit with
  | parameter symbol =>
      have names :
          ((locals.map Parameter.canonical).any fun known =>
              known.name == symbol.canonical.name) =
            locals.any fun known => known.name == symbol.name := by
        rw [List.any_map]
        rfl
      simp only [Visit.canonical, Visit.stageParameters,
        Operand.stageParameters, names]
      split <;> rfl
  | operation position node =>
      cases node with
      | call function arguments =>
          simpa [Visit.canonical, Operation.canonical,
            Visit.stageParameters] using calleeHolds function rfl
      | _ =>
          simp [Visit.canonical, Operation.canonical,
            Visit.stageParameters]
  | _ =>
      simp [Visit.canonical, Visit.stageParameters]

theorem ShaderFunction.stageParameters_canonical
    (function : ShaderFunction) :
    function.canonical.stageParameters =
      function.stageParameters.map Parameter.canonical := by
  induction function using ShaderFunction.callee_induction with
  | step function inductionHypothesis =>
      have scopes : function.canonical.scope = function.scope.canonical := by
        simp [ShaderFunction.scope, Scope.canonical]
      rw [stageParameters_eq, stageParameters_eq, scopes,
        Scope.visits_canonical, Scope.locals_canonical, List.flatMap_map,
        List.map_flatMap, List.flatMap_def, List.flatMap_def]
      refine congrArg List.flatten <|
        List.map_congr_left fun visit member => ?_
      refine visitStageParameters_canonical _ visit ?_
      intro callee called
      exact inductionHypothesis callee <|
        List.mem_filterMap.mpr ⟨visit, member, called⟩

/-- Functions with one canonical form use parameters of the same names. -/
theorem exists_stageParameter_of_canonical_eq
    {first second : ShaderFunction}
    (same : first.canonical = second.canonical) {symbol : Parameter}
    (used : symbol ∈ second.stageParameters) :
    ∃ other ∈ first.stageParameters, other.name = symbol.name := by
  have mapped :
      symbol.canonical ∈
        first.stageParameters.map Parameter.canonical := by
    rw [← ShaderFunction.stageParameters_canonical, same,
      ShaderFunction.stageParameters_canonical]
    exact List.mem_map_of_mem used
  obtain ⟨other, member, equality⟩ := List.mem_map.mp mapped
  exact ⟨other, member, Parameter.name_of_symbol <|
    (Parameter.canonical_eq_iff other symbol).mp equality⟩

end Shaderwright
