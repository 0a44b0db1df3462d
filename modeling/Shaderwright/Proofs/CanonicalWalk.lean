import Shaderwright.Proofs.NaNFree
import Shaderwright.Proofs.Relabeling

/-!
The walk over the canonical form of a tree. The canonical form relabels the
tree (`canonicalBody_eq_relabeled`): visits, declarations, callees and types of
a canonical tree are those of the tree in canonical form, so trees that are
equal are walked alike.
-/

namespace Shaderwright

/-! ## The canonical form as a relabelling -/

/-- The relabelling that forgets the handles and has one zero only. -/
def Relabeling.canonical : Relabeling where
  parameter := Parameter.canonical
  number := Binary32.canonical
  handle := fun _ => 0

private theorem literal_canonical_eq (value : Literal) :
    value.canonical = value.mapNumbers Binary32.canonical := by
  cases value <;> rfl

mutual

theorem Operand.canonical_eq_relabeled : ∀ operand : Operand,
    operand.canonical = operand.relabeled .canonical
  | .parameter _ | .builtIn _ | .raw _ => by
      simp [Operand.canonical, Operand.relabeled, Relabeling.canonical]
  | .literal value => by
      simp [Operand.canonical, Operand.relabeled, Relabeling.canonical,
        literal_canonical_eq]
  | .operation node => by
      simp [Operand.canonical, Operand.relabeled,
        Operation.canonical_eq_relabeled node]

theorem Operation.canonical_eq_relabeled : ∀ node : Operation,
    node.canonical = node.relabeled .canonical
  | .assign _ left right | .compare _ left right => by
      simp [Operation.canonical, Operation.relabeled,
        Operand.canonical_eq_relabeled left,
        Operand.canonical_eq_relabeled right]
  | .declare _ | .returnVoid => by
      simp [Operation.canonical, Operation.relabeled, Relabeling.canonical]
  | .arithmetic _ operands | .builtIn _ operands
  | .construct _ operands => by
      simp [Operation.canonical, Operation.relabeled,
        canonicalOperands_eq_relabeled operands]
  | .select operand _ | .returnValue operand => by
      simp [Operation.canonical, Operation.relabeled,
        Operand.canonical_eq_relabeled operand]
  | .ifThen condition body => by
      simp [Operation.canonical, Operation.relabeled,
        Operand.canonical_eq_relabeled condition,
        canonicalBody_eq_relabeled body]
  | .ifElse condition body alternative => by
      simp [Operation.canonical, Operation.relabeled,
        Operand.canonical_eq_relabeled condition,
        canonicalBody_eq_relabeled body,
        canonicalBody_eq_relabeled alternative]
  | .loop _ _ _ body => by
      simp [Operation.canonical, Operation.relabeled,
        canonicalBody_eq_relabeled body]
  | .call function arguments => by
      simp [Operation.canonical, Operation.relabeled,
        ShaderFunction.canonical_eq_relabeled function,
        canonicalOperands_eq_relabeled arguments]
  | .convert source type pad => by
      simp [Operation.canonical, Operation.relabeled,
        Operand.canonical_eq_relabeled source, Relabeling.canonical]

theorem ShaderFunction.canonical_eq_relabeled :
    ∀ function : ShaderFunction,
      function.canonical = function.relabeled .canonical
  | ⟨handle, name, returnType, parameters, body⟩ => by
      simp [ShaderFunction.canonical, ShaderFunction.relabeled,
        canonicalBody_eq_relabeled body, Relabeling.canonical]

theorem canonicalOperands_eq_relabeled : ∀ operands : List Operand,
    canonicalOperands operands = relabeledOperands .canonical operands
  | [] => by
      simp [canonicalOperands, relabeledOperands]
  | operand :: rest => by
      simp [canonicalOperands, relabeledOperands,
        Operand.canonical_eq_relabeled operand,
        canonicalOperands_eq_relabeled rest]

theorem canonicalBody_eq_relabeled : ∀ body : List Operation,
    canonicalBody body = relabeledBody .canonical body
  | [] => by
      simp [canonicalBody, relabeledBody]
  | operation :: rest => by
      simp [canonicalBody, relabeledBody,
        Operation.canonical_eq_relabeled operation,
        canonicalBody_eq_relabeled rest]

end

theorem Relabeling.canonical_keepsDeclarations :
    Relabeling.canonical.KeepsDeclarations := by
  intro symbol
  rfl

/-! ## Parts of a canonical tree -/

@[simp]
theorem Parameter.symbol_canonical (symbol : Parameter) :
    symbol.canonical.symbol = symbol.symbol := by
  rfl

@[simp]
theorem Parameter.name_canonical (symbol : Parameter) :
    symbol.canonical.name = symbol.name := by
  rfl

@[simp]
theorem Parameter.type_canonical (symbol : Parameter) :
    symbol.canonical.type = symbol.type := by
  rfl

@[simp]
theorem Parameter.qualifier_canonical (symbol : Parameter) :
    symbol.canonical.qualifier = symbol.qualifier := by
  rfl

theorem Parameter.canonical_eq_iff (first second : Parameter) :
    first.canonical = second.canonical ↔ first.symbol = second.symbol := by
  obtain ⟨_, name, type, qualifier, arrayLength⟩ := first
  obtain ⟨_, name', type', qualifier', arrayLength'⟩ := second
  simp only [Parameter.canonical, Parameter.symbol, Parameter.mk.injEq,
    Symbol.mk.injEq]
  grind

@[simp]
theorem ShaderFunction.name_canonical (function : ShaderFunction) :
    function.canonical.name = function.name := by
  obtain ⟨handle, name, returnType, parameters, body⟩ := function
  rfl

@[simp]
theorem ShaderFunction.returnType_canonical (function : ShaderFunction) :
    function.canonical.returnType = function.returnType := by
  obtain ⟨handle, name, returnType, parameters, body⟩ := function
  rfl

@[simp]
theorem ShaderFunction.parameters_canonical (function : ShaderFunction) :
    function.canonical.parameters =
      function.parameters.map Parameter.canonical := by
  obtain ⟨handle, name, returnType, parameters, body⟩ := function
  rfl

@[simp]
theorem ShaderFunction.body_canonical (function : ShaderFunction) :
    function.canonical.body = canonicalBody function.body := by
  obtain ⟨handle, name, returnType, parameters, body⟩ := function
  rfl

@[simp]
theorem length_canonicalOperands (operands : List Operand) :
    (canonicalOperands operands).length = operands.length := by
  rw [canonicalOperands_eq_relabeled, length_relabeledOperands]

/-! ## Visits -/

/-- A visit of the canonical form of a tree. -/
def Visit.canonical : Visit → Visit
  | .parameter symbol => .parameter symbol.canonical
  | .literal value => .literal value.canonical
  | .builtIn source => .builtIn source
  | .introduced symbol => .introduced symbol.canonical
  | .operation position node => .operation position node.canonical
  | .padding source type pad =>
      .padding source.canonical type pad.canonical

private theorem visit_canonical_eq_relabeled (visit : Visit) :
    visit.canonical = visit.relabeled .canonical := by
  cases visit <;>
    simp [Visit.canonical, Visit.relabeled, Relabeling.canonical,
      literal_canonical_eq, Operation.canonical_eq_relabeled,
      Operand.canonical_eq_relabeled]

theorem bodyVisits_canonical (level : Nat) (body : List Operation) :
    bodyVisits level (canonicalBody body) =
      (bodyVisits level body).map Visit.canonical := by
  rw [canonicalBody_eq_relabeled, bodyVisits_relabeled]
  exact List.map_congr_left fun visit _ =>
    (visit_canonical_eq_relabeled visit).symm

theorem bodyCallees_canonical (body : List Operation) :
    bodyCallees (canonicalBody body) =
      (bodyCallees body).map ShaderFunction.canonical := by
  rw [canonicalBody_eq_relabeled, bodyCallees_relabeled]
  exact List.map_congr_left fun function _ =>
    function.canonical_eq_relabeled.symm

/-- A function that is called by a function called from a body corresponds to
one called from the canonical body. -/
theorem CalledFrom.canonical {body : List Operation}
    {function : ShaderFunction} (called : CalledFrom body function) :
    CalledFrom (canonicalBody body) function.canonical := by
  rw [canonicalBody_eq_relabeled, calledFrom_relabeled_iff]
  exact ⟨function, called, function.canonical_eq_relabeled.symm⟩

/-! ## Declarations and types -/

theorem bodyDeclarations_canonical (body : List Operation) :
    bodyDeclarations (canonicalBody body) =
      (bodyDeclarations body).map Parameter.canonical := by
  rw [canonicalBody_eq_relabeled, bodyDeclarations_relabeled]
  rfl

@[simp]
theorem Operand.components?_canonical (operand : Operand) :
    operand.canonical.components? = operand.components? := by
  rw [Operand.canonical_eq_relabeled,
    Relabeling.canonical_keepsDeclarations.operandComponents?]

@[simp]
theorem componentCounts?_canonical (operands : List Operand) :
    componentCounts? (canonicalOperands operands) =
      componentCounts? operands := by
  rw [canonicalOperands_eq_relabeled,
    Relabeling.canonical_keepsDeclarations.operandComponentCounts?]

/-! ## Equal functions -/

theorem ShaderFunction.canonical_eq_of_equals
    {first second : ShaderFunction}
    (equal : first.equals second = true) :
    first.canonical = second.canonical :=
  ((ShaderFunction.equals_iff first second).mp equal).2.2

theorem ShaderFunction.equals_symm {first second : ShaderFunction}
    (equal : first.equals second = true) :
    second.equals first = true := by
  obtain ⟨ownFirst, ownSecond, same⟩ :=
    (ShaderFunction.equals_iff first second).mp equal
  exact (ShaderFunction.equals_iff second first).mpr
    ⟨ownSecond, ownFirst, same.symm⟩

theorem ShaderFunction.equals_trans {first second third : ShaderFunction}
    (equal : first.equals second = true)
    (equal' : second.equals third = true) :
    first.equals third = true := by
  obtain ⟨ownFirst, _, same⟩ :=
    (ShaderFunction.equals_iff first second).mp equal
  obtain ⟨_, ownThird, same'⟩ :=
    (ShaderFunction.equals_iff second third).mp equal'
  exact (ShaderFunction.equals_iff first third).mpr
    ⟨ownFirst, ownThird, same.trans same'⟩

/-- Every callee of a function is equal to a callee of an equal function. -/
theorem ShaderFunction.callee_of_equals
    {first second function : ShaderFunction}
    (equal : first.equals second = true)
    (called : function ∈ bodyCallees second.body) :
    ∃ callee ∈ bodyCallees first.body,
      callee.equals function = true := by
  obtain ⟨ownFirst, ownSecond, same⟩ :=
    (ShaderFunction.equals_iff first second).mp equal
  have mapped :
      function.canonical ∈
        (bodyCallees first.body).map ShaderFunction.canonical := by
    rw [← bodyCallees_canonical, ← ShaderFunction.body_canonical, same,
      ShaderFunction.body_canonical, bodyCallees_canonical]
    exact List.mem_map_of_mem called
  obtain ⟨callee, member, sameCallee⟩ := List.mem_map.mp mapped
  have own {caller callee : ShaderFunction}
      (ownCaller : caller.equals caller = true)
      (called : callee ∈ bodyCallees caller.body) :
      callee.equals callee = true := by
    rw [ShaderFunction.equals_self_iff] at ownCaller ⊢
    exact ownCaller.callee (.direct called)
  exact ⟨callee, member, (ShaderFunction.equals_iff callee function).mpr
    ⟨own ownFirst member, own ownSecond called, sameCallee⟩⟩

end Shaderwright
