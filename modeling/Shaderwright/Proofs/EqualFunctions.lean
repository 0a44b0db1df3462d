import Shaderwright.Proofs.CanonicalWalk
import Shaderwright.Proofs.Conditions

/-!
The conditions on a function do not tell it from an equal one. They are
conditions on its canonical form, and among the functions of one shader one
stands for another exactly when both have one canonical form.
-/

namespace Shaderwright

/-! ## Conditions on canonical trees -/

theorem declaredAlike_canonical_iff (declarations : List Parameter) :
    DeclaredAlike (declarations.map Parameter.canonical) ↔
      DeclaredAlike declarations := by
  simp [DeclaredAlike]

theorem Operand.assignable_canonical_iff (locals : List Parameter)
    (assigned : Operand) :
    assigned.canonical.Assignable (locals.map Parameter.canonical) ↔
      assigned.Assignable locals := by
  fun_induction Operand.Assignable locals assigned with
  | case1 symbol =>
      have declared :
          (∃ known ∈ locals.map Parameter.canonical,
              known.symbol = symbol.canonical.symbol) ↔
            ∃ known ∈ locals, known.symbol = symbol.symbol := by
        constructor
        · rintro ⟨_, mapped, same⟩
          obtain ⟨known, member, rfl⟩ := List.mem_map.mp mapped
          exact ⟨known, member, same⟩
        · rintro ⟨known, member, same⟩
          exact ⟨known.canonical, List.mem_map_of_mem member, same⟩
      simp only [Operand.canonical, Operand.Assignable, declared,
        List.forall_mem_map, Parameter.name_canonical,
        Parameter.qualifier_canonical]
  | case2 source =>
      simp [Operand.canonical, Operand.Assignable]
  | case3 symbol =>
      simp [Operand.canonical, Operation.canonical, Operand.Assignable]
  | case4 base suffix inductionHypothesis =>
      simpa [Operand.canonical, Operation.canonical, Operand.Assignable]
        using inductionHypothesis
  | case5 other notParameter notBuiltIn notDeclaration notSelection =>
      cases other with
      | operation node =>
          cases node <;>
            simp_all [Operand.canonical, Operation.canonical,
              Operand.Assignable]
      | _ =>
          simp_all [Operand.canonical, Operand.Assignable]

theorem Operation.admissible_canonical_iff (target : Target)
    (locals : List Parameter) (position : Position) (node : Operation) :
    node.canonical.Admissible target (locals.map Parameter.canonical)
        position ↔
      node.Admissible target locals position := by
  cases node with
  | assign operator assigned value =>
      exact Operand.assignable_canonical_iff locals assigned
  | construct type operands =>
      simp [Operation.canonical, Operation.Admissible, FillsConstructor]
  | _ =>
      simp [Operation.canonical, Operation.Admissible]

theorem Visit.admissible_canonical_iff (target : Target)
    (locals : List Parameter) (visit : Visit) :
    visit.canonical.Admissible target (locals.map Parameter.canonical) ↔
      visit.Admissible target locals := by
  cases visit with
  | operation position node =>
      exact Operation.admissible_canonical_iff target locals position node
  | _ =>
      simp [Visit.canonical, Visit.Admissible]

/-! ## Canonical scopes -/

namespace Scope

/-- The canonical form of a body with its parameters. -/
def canonical (scope : Scope) : Scope :=
  ⟨scope.parameters.map Parameter.canonical, canonicalBody scope.body⟩

@[simp]
theorem locals_canonical (scope : Scope) :
    scope.canonical.locals = scope.locals.map Parameter.canonical := by
  simp [canonical, locals, bodyDeclarations_canonical]

@[simp]
theorem visits_canonical (scope : Scope) :
    scope.canonical.visits = scope.visits.map Visit.canonical :=
  bodyVisits_canonical 1 scope.body

theorem acceptable_canonical_iff (target : Target) (scope : Scope) :
    scope.canonical.Acceptable target ↔ scope.Acceptable target := by
  have alike := declaredAlike_canonical_iff scope.locals
  have visits :
      (∀ visit ∈ scope.canonical.visits,
          visit.Admissible target scope.canonical.locals) ↔
        ∀ visit ∈ scope.visits, visit.Admissible target scope.locals := by
    simp only [visits_canonical, locals_canonical, List.forall_mem_map,
      Visit.admissible_canonical_iff]
  constructor
  · intro acceptable
    exact ⟨alike.mp (scope.locals_canonical ▸ acceptable.localsAlike),
      visits.mp acceptable.visits⟩
  · intro acceptable
    exact ⟨scope.locals_canonical ▸ alike.mpr acceptable.localsAlike,
      visits.mpr acceptable.visits⟩

/-- Scopes with one canonical form are acceptable together. -/
theorem Acceptable.of_canonical_eq {target : Target}
    {first second : Scope} (same : first.canonical = second.canonical)
    (acceptable : first.Acceptable target) : second.Acceptable target := by
  rw [← acceptable_canonical_iff, ← same, acceptable_canonical_iff]
  exact acceptable

/-- Scopes with one canonical form use parameters of the stage that are
declared alike. -/
theorem StageUse.of_canonical_eq {first second : Scope}
    (same : first.canonical = second.canonical) {symbol : Parameter}
    (used : second.StageUse symbol) :
    ∃ other, first.StageUse other ∧ other.symbol = symbol.symbol := by
  obtain ⟨member, notLocal⟩ := used
  have visits := congrArg Scope.visits same
  have locals := congrArg Scope.locals same
  simp only [visits_canonical, locals_canonical] at visits locals
  have mapped :
      Visit.parameter symbol.canonical ∈
        first.visits.map Visit.canonical := by
    rw [visits]
    exact List.mem_map_of_mem member
  obtain ⟨visit, inFirst, equality⟩ := List.mem_map.mp mapped
  cases visit with
  | parameter other =>
      have sameSymbol : other.symbol = symbol.symbol :=
        (Parameter.canonical_eq_iff other symbol).mp
          (Visit.parameter.inj equality)
      refine ⟨other, ⟨inFirst, ?_⟩, sameSymbol⟩
      intro known declared named
      have mappedLocal :
          known.canonical ∈ second.locals.map Parameter.canonical := by
        rw [← locals]
        exact List.mem_map_of_mem declared
      obtain ⟨twin, inSecond, sameTwin⟩ := List.mem_map.mp mappedLocal
      have twinNamed : twin.name = known.name :=
        Parameter.name_of_symbol <|
          (Parameter.canonical_eq_iff twin known).mp sameTwin
      exact notLocal twin inSecond <|
        (twinNamed.trans named).trans (Parameter.name_of_symbol sameSymbol)
  | _ =>
      cases equality

end Scope

/-! ## Functions with one canonical form -/

section Functions

variable {first second : ShaderFunction}

theorem ShaderFunction.name_eq_of_canonical_eq
    (same : first.canonical = second.canonical) :
    first.name = second.name := by
  simpa using congrArg ShaderFunction.name same

theorem ShaderFunction.canonical_scope_eq
    (same : first.canonical = second.canonical) :
    first.scope.canonical = second.scope.canonical := by
  have parameters := congrArg ShaderFunction.parameters same
  have body := congrArg ShaderFunction.body same
  simp only [ShaderFunction.parameters_canonical,
    ShaderFunction.body_canonical] at parameters body
  simp only [ShaderFunction.scope, Scope.canonical, parameters, body]

theorem ShaderFunction.Declarable.of_canonical_eq {target : Target}
    (same : first.canonical = second.canonical)
    (declarable : first.Declarable target) : second.Declarable target := by
  have returnTypes := congrArg ShaderFunction.returnType same
  have parameters := congrArg ShaderFunction.parameters same
  simp only [ShaderFunction.returnType_canonical,
    ShaderFunction.parameters_canonical] at returnTypes parameters
  constructor
  · intro type returned
    exact declarable.returnType type (returnTypes.trans returned)
  · intro symbol member
    have mapped :
        symbol.canonical ∈ first.parameters.map Parameter.canonical := by
      rw [parameters]
      exact List.mem_map_of_mem member
    obtain ⟨other, inFirst, sameSymbol⟩ := List.mem_map.mp mapped
    have types : other.type = symbol.type := by
      simpa using congrArg Parameter.type sameSymbol
    exact types ▸ declarable.parameters other inFirst

/-- A function is not called from the body of a function of its canonical
form. -/
theorem not_calledFrom_of_canonical_eq
    (same : first.canonical = second.canonical) :
    ¬ CalledFrom first.body second := by
  intro called
  refine not_calledFrom_self first.canonical ?_
  have canonicalCall := called.canonical
  rw [← same] at canonicalCall
  rw [ShaderFunction.body_canonical]
  exact canonicalCall

end Functions

/-! ## Functions of one shader -/

namespace Shader.HandlesAgree

variable {shader : Shader} {first second third : ShaderFunction}

/-- Among the functions of a shader, one stands for another exactly when it is
that function or equal to it. -/
theorem standsFor_iff (agree : shader.HandlesAgree)
    (calledFirst : CalledFrom shader.operations first)
    (calledSecond : CalledFrom shader.operations second) :
    first.StandsFor second ↔
      first = second ∨ first.equals second = true := by
  constructor
  · rintro (handles | equal)
    · exact Or.inl (agree first calledFirst second calledSecond handles)
    · exact Or.inr equal
  · rintro (rfl | equal)
    · exact Or.inl rfl
    · exact Or.inr equal

theorem standsFor_symm (agree : shader.HandlesAgree)
    (calledFirst : CalledFrom shader.operations first)
    (calledSecond : CalledFrom shader.operations second)
    (same : first.StandsFor second) : second.StandsFor first := by
  rw [agree.standsFor_iff calledSecond calledFirst]
  rcases (agree.standsFor_iff calledFirst calledSecond).mp same with
    rfl | equal
  · exact Or.inl rfl
  · exact Or.inr (ShaderFunction.equals_symm equal)

theorem standsFor_trans (agree : shader.HandlesAgree)
    (calledFirst : CalledFrom shader.operations first)
    (calledSecond : CalledFrom shader.operations second)
    (calledThird : CalledFrom shader.operations third)
    (same : first.StandsFor second) (same' : second.StandsFor third) :
    first.StandsFor third := by
  rw [agree.standsFor_iff calledFirst calledThird]
  rcases (agree.standsFor_iff calledFirst calledSecond).mp same with
    rfl | equal
  · exact (agree.standsFor_iff calledFirst calledThird).mp same'
  · rcases (agree.standsFor_iff calledSecond calledThird).mp same' with
      rfl | equal'
    · exact Or.inr equal
    · exact Or.inr (ShaderFunction.equals_trans equal equal')

theorem canonical_eq_of_standsFor (agree : shader.HandlesAgree)
    (calledFirst : CalledFrom shader.operations first)
    (calledSecond : CalledFrom shader.operations second)
    (same : first.StandsFor second) :
    first.canonical = second.canonical := by
  rcases (agree.standsFor_iff calledFirst calledSecond).mp same with
    rfl | equal
  · rfl
  · exact ShaderFunction.canonical_eq_of_equals equal

/-- What a function calls is stood for by what any function that stands for it
calls. -/
theorem callee_of_standsFor (agree : shader.HandlesAgree)
    (calledFirst : CalledFrom shader.operations first)
    (calledSecond : CalledFrom shader.operations second)
    (same : first.StandsFor second)
    (called : third ∈ bodyCallees second.body) :
    ∃ callee ∈ bodyCallees first.body, callee.StandsFor third := by
  rcases (agree.standsFor_iff calledFirst calledSecond).mp same with
    rfl | equal
  · exact ⟨third, called, Or.inl rfl⟩
  · obtain ⟨callee, member, equalCallee⟩ :=
      ShaderFunction.callee_of_equals equal called
    exact ⟨callee, member, Or.inr equalCallee⟩

end Shader.HandlesAgree

end Shaderwright
