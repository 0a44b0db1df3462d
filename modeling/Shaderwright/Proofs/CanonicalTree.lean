import Shaderwright.Tree.Equality

/-!
Canonical trees. The canonical form of a tree forgets the handles and has one
zero only. Two trees are equal exactly when they hold no NaN and have one
canonical form (`Operand.equals_iff`), so equality is symmetric and transitive
and respects all that can be read off the canonical form.
-/

namespace Shaderwright

/-! ## Numbers and literals -/

/-- The number itself, but positive zero for both zeros. -/
def Binary32.canonical (x : Binary32) : Binary32 :=
  if x.magnitude = 0 then ⟨0⟩ else x

theorem Binary32.equals_self (x : Binary32) :
    x.equals x = true ↔ x.isNaN = false := by
  simp [Binary32.equals]

theorem Binary32.equals_iff (x y : Binary32) :
    x.equals y = true ↔
      x.equals x = true ∧ y.equals y = true ∧
        x.canonical = y.canonical := by
  rw [Binary32.equals_self, Binary32.equals_self]
  simp only [Binary32.equals, Binary32.canonical, Bool.and_eq_true,
    Bool.not_eq_true', Bool.or_eq_true, beq_iff_eq]
  have zero : (⟨0⟩ : Binary32).magnitude = 0 := by decide
  constructor
  · rintro ⟨⟨notX, notY⟩, sameBits | ⟨zeroX, zeroY⟩⟩
    · obtain ⟨bits⟩ := x
      cases sameBits
      exact ⟨notX, notY, rfl⟩
    · exact ⟨notX, notY, by rw [if_pos zeroX, if_pos zeroY]⟩
  · rintro ⟨notX, notY, same⟩
    refine ⟨⟨notX, notY⟩, ?_⟩
    by_cases zeroX : x.magnitude = 0
    · by_cases zeroY : y.magnitude = 0
      · exact Or.inr ⟨zeroX, zeroY⟩
      · rw [if_pos zeroX, if_neg zeroY] at same
        exact absurd (same ▸ zero) zeroY
    · by_cases zeroY : y.magnitude = 0
      · rw [if_neg zeroX, if_pos zeroY] at same
        exact absurd (same ▸ zero) zeroX
      · rw [if_neg zeroX, if_neg zeroY] at same
        exact Or.inl (congrArg Binary32.bits same)

/-- The canonical number is finite when the number is. -/
@[simp]
theorem Binary32.isFinite_canonical (x : Binary32) :
    x.canonical.isFinite = x.isFinite := by
  unfold Binary32.canonical
  split
  · rename_i zero
    rw [Binary32.isFinite, Binary32.isFinite, zero]
    decide
  · rfl

/-- The literal with the canonical form of every number. -/
def Literal.canonical : Literal → Literal
  | scalar value => scalar value.canonical
  | boolean value => boolean value
  | vector2 values => vector2 (values.map Binary32.canonical)
  | vector3 values => vector3 (values.map Binary32.canonical)
  | vector4 values => vector4 (values.map Binary32.canonical)
  | matrix2 values => matrix2 (values.map Binary32.canonical)
  | matrix3 values => matrix3 (values.map Binary32.canonical)
  | matrix4 values => matrix4 (values.map Binary32.canonical)

@[simp]
theorem Literal.type_canonical (value : Literal) :
    value.canonical.type = value.type := by
  cases value <;> rfl

@[simp]
theorem Literal.components_canonical (value : Literal) :
    value.canonical.components =
      value.components.map Binary32.canonical := by
  cases value <;>
    simp [Literal.canonical, Literal.components, Vector.toList_map]

theorem Literal.componentsEqual_iff (xs ys : List Binary32) :
    Literal.componentsEqual xs ys = true ↔
      Literal.componentsEqual xs xs = true ∧
        Literal.componentsEqual ys ys = true ∧
          xs.map Binary32.canonical = ys.map Binary32.canonical := by
  induction xs generalizing ys with
  | nil =>
      cases ys <;> simp [Literal.componentsEqual]
  | cons x xs inductionHypothesis =>
      cases ys with
      | nil =>
          simp [Literal.componentsEqual]
      | cons y ys =>
          have heads := Binary32.equals_iff x y
          have tails := inductionHypothesis ys
          simp only [Literal.componentsEqual, Bool.and_eq_true,
            List.map_cons, List.cons.injEq]
          grind

/-- A literal is canonical in one way. -/
theorem Literal.canonical_eq_iff (first second : Literal) :
    first.canonical = second.canonical ↔
      first.type = second.type ∧
        first.components.map Binary32.canonical =
          second.components.map Binary32.canonical ∧
        (first.type = .boolean → first = second) := by
  constructor
  · intro same
    refine ⟨?_, ?_, ?_⟩
    · rw [← first.type_canonical, same, second.type_canonical]
    · rw [← first.components_canonical, same, second.components_canonical]
    · intro boolean
      cases first <;> simp [Literal.type] at boolean
      cases second <;> simp [Literal.canonical] at same ⊢
      exact same
  · rintro ⟨types, components, boolean⟩
    cases first <;> cases second <;>
      simp_all [Literal.type, Literal.canonical, Literal.components,
        ← Vector.toList_map, Vector.toList_inj]

theorem Literal.equals_iff (first second : Literal) :
    first.equals second = true ↔
      first.equals first = true ∧ second.equals second = true ∧
        first.canonical = second.canonical := by
  have components :=
    Literal.componentsEqual_iff first.components second.components
  rw [Literal.canonical_eq_iff]
  cases first <;> cases second <;>
    simp_all [Literal.equals, Literal.type]

/-! ## Trees -/

/-- The declaration of a parameter without its handle. -/
def Parameter.canonical (symbol : Parameter) : Parameter :=
  { symbol with handle := 0 }

theorem Parameter.equals_iff (first second : Parameter) :
    first.equals second = true ↔ first.canonical = second.canonical := by
  obtain ⟨_, name, type, qualifier, arrayLength⟩ := first
  obtain ⟨_, name', type', qualifier', arrayLength'⟩ := second
  simp [Parameter.equals_eq_declaredAlike, Parameter.declaredAlike,
    Parameter.canonical, and_assoc]

mutual

def Operand.canonical : Operand → Operand
  | .parameter symbol => .parameter symbol.canonical
  | .literal value => .literal value.canonical
  | .builtIn source => .builtIn source
  | .operation node => .operation node.canonical
  | .raw text => .raw text

def Operation.canonical : Operation → Operation
  | .assign operator assigned value =>
      .assign operator assigned.canonical value.canonical
  | .declare symbol => .declare symbol.canonical
  | .arithmetic operator operands =>
      .arithmetic operator (canonicalOperands operands)
  | .compare operator left right =>
      .compare operator left.canonical right.canonical
  | .select base suffix => .select base.canonical suffix
  | .builtIn function arguments =>
      .builtIn function (canonicalOperands arguments)
  | .ifThen condition body =>
      .ifThen condition.canonical (canonicalBody body)
  | .ifElse condition body alternative =>
      .ifElse condition.canonical (canonicalBody body)
        (canonicalBody alternative)
  | .loop initial condition step body =>
      .loop initial condition step (canonicalBody body)
  | .returnValue value => .returnValue value.canonical
  | .returnVoid => .returnVoid
  | .call function arguments =>
      .call function.canonical (canonicalOperands arguments)
  | .construct type operands =>
      .construct type (canonicalOperands operands)
  | .convert source type pad =>
      .convert source.canonical type pad.canonical

def ShaderFunction.canonical : ShaderFunction → ShaderFunction
  | ⟨_, name, returnType, parameters, body⟩ =>
      ⟨0, name, returnType, parameters.map Parameter.canonical,
        canonicalBody body⟩

/-- The canonical forms of a list of operands. -/
def canonicalOperands : List Operand → List Operand
  | [] => []
  | operand :: rest => operand.canonical :: canonicalOperands rest

/-- The canonical form of a body. -/
def canonicalBody : List Operation → List Operation
  | [] => []
  | operation :: rest => operation.canonical :: canonicalBody rest

end

theorem parametersEqual_iff (first second : List Parameter) :
    parametersEqual first second = true ↔
      first.map Parameter.canonical = second.map Parameter.canonical := by
  induction first generalizing second with
  | nil =>
      cases second <;> simp [parametersEqual]
  | cons symbol rest inductionHypothesis =>
      cases second with
      | nil =>
          simp [parametersEqual]
      | cons other others =>
          simp [parametersEqual, Parameter.equals_iff,
            inductionHypothesis]

section Equality

mutual

theorem Operand.equals_iff : ∀ first second : Operand,
    first.equals second = true ↔
      first.equals first = true ∧ second.equals second = true ∧
        first.canonical = second.canonical
  | .parameter symbol, second => by
      cases second <;>
        simp [Operand.equals, Operand.canonical, Parameter.equals_iff]
  | .literal value, second => by
      cases second with
      | literal other =>
          simp only [Operand.equals, Operand.canonical,
            Operand.literal.injEq]
          exact Literal.equals_iff value other
      | _ =>
          simp [Operand.equals, Operand.canonical]
  | .builtIn source, second => by
      cases second <;> simp [Operand.equals, Operand.canonical]
  | .operation node, second => by
      cases second with
      | operation other =>
          simp only [Operand.equals, Operand.canonical,
            Operand.operation.injEq]
          exact Operation.equals_iff node other
      | _ =>
          simp [Operand.equals, Operand.canonical]
  | .raw text, second => by
      cases second <;> simp [Operand.equals, Operand.canonical]

theorem Operation.equals_iff : ∀ first second : Operation,
    first.equals second = true ↔
      first.equals first = true ∧ second.equals second = true ∧
        first.canonical = second.canonical
  | .assign operator assigned value, second => by
      cases second with
      | assign operator' assigned' value' =>
          have sameTarget := Operand.equals_iff assigned assigned'
          have sameValue := Operand.equals_iff value value'
          simp only [Operation.equals, Operation.canonical,
            Bool.and_eq_true, beq_iff_eq, Operation.assign.injEq]
          grind
      | _ =>
          simp [Operation.equals, Operation.canonical]
  | .declare symbol, second => by
      cases second <;>
        simp [Operation.equals, Operation.canonical, Parameter.equals_iff]
  | .arithmetic operator operands, second => by
      cases second with
      | arithmetic operator' operands' =>
          have sameOperands := operandsEqual_iff operands operands'
          simp only [Operation.equals, Operation.canonical,
            Bool.and_eq_true, beq_iff_eq, Operation.arithmetic.injEq]
          grind
      | _ =>
          simp [Operation.equals, Operation.canonical]
  | .compare operator left right, second => by
      cases second with
      | compare operator' left' right' =>
          have sameLeft := Operand.equals_iff left left'
          have sameRight := Operand.equals_iff right right'
          simp only [Operation.equals, Operation.canonical,
            Bool.and_eq_true, beq_iff_eq, Operation.compare.injEq]
          grind
      | _ =>
          simp [Operation.equals, Operation.canonical]
  | .select base suffix, second => by
      cases second with
      | select base' suffix' =>
          have sameBase := Operand.equals_iff base base'
          simp only [Operation.equals, Operation.canonical,
            Bool.and_eq_true, beq_iff_eq, Operation.select.injEq]
          grind
      | _ =>
          simp [Operation.equals, Operation.canonical]
  | .builtIn function arguments, second => by
      cases second with
      | builtIn function' arguments' =>
          have sameArguments := operandsEqual_iff arguments arguments'
          simp only [Operation.equals, Operation.canonical,
            Bool.and_eq_true, beq_iff_eq, Operation.builtIn.injEq]
          grind
      | _ =>
          simp [Operation.equals, Operation.canonical]
  | .ifThen condition body, second => by
      cases second with
      | ifThen condition' body' =>
          have sameCondition := Operand.equals_iff condition condition'
          have sameBody := operationsEqual_iff body body'
          simp only [Operation.equals, Operation.canonical,
            Bool.and_eq_true, Operation.ifThen.injEq]
          grind
      | _ =>
          simp [Operation.equals, Operation.canonical]
  | .ifElse condition body alternative, second => by
      cases second with
      | ifElse condition' body' alternative' =>
          have sameCondition := Operand.equals_iff condition condition'
          have sameBody := operationsEqual_iff body body'
          have sameAlternative :=
            operationsEqual_iff alternative alternative'
          simp only [Operation.equals, Operation.canonical,
            Bool.and_eq_true, Operation.ifElse.injEq]
          grind
      | _ =>
          simp [Operation.equals, Operation.canonical]
  | .loop initial condition step body, second => by
      cases second with
      | loop initial' condition' step' body' =>
          have sameBody := operationsEqual_iff body body'
          simp only [Operation.equals, Operation.canonical,
            Bool.and_eq_true, beq_iff_eq, Operation.loop.injEq]
          grind
      | _ =>
          simp [Operation.equals, Operation.canonical]
  | .returnValue value, second => by
      cases second with
      | returnValue value' =>
          simp only [Operation.equals, Operation.canonical,
            Operation.returnValue.injEq]
          exact Operand.equals_iff value value'
      | _ =>
          simp [Operation.equals, Operation.canonical]
  | .returnVoid, second => by
      cases second <;> simp [Operation.equals, Operation.canonical]
  | .call function arguments, second => by
      cases second with
      | call function' arguments' =>
          have sameFunction := ShaderFunction.equals_iff function function'
          have sameArguments := operandsEqual_iff arguments arguments'
          simp only [Operation.equals, Operation.canonical,
            Bool.and_eq_true, Operation.call.injEq]
          grind
      | _ =>
          simp [Operation.equals, Operation.canonical]
  | .construct type operands, second => by
      cases second with
      | construct type' operands' =>
          have sameOperands := operandsEqual_iff operands operands'
          simp only [Operation.equals, Operation.canonical,
            Bool.and_eq_true, beq_iff_eq, Operation.construct.injEq]
          grind
      | _ =>
          simp [Operation.equals, Operation.canonical]
  | .convert source type pad, second => by
      cases second with
      | convert source' type' pad' =>
          have sameSource := Operand.equals_iff source source'
          have samePad := Binary32.equals_iff pad pad'
          simp only [Operation.equals, Operation.canonical,
            Bool.and_eq_true, beq_iff_eq, Operation.convert.injEq]
          grind
      | _ =>
          simp [Operation.equals, Operation.canonical]

/-- Two functions are equal exactly when neither holds a NaN and they have one
canonical form. -/
theorem ShaderFunction.equals_iff : ∀ first second : ShaderFunction,
    first.equals second = true ↔
      first.equals first = true ∧ second.equals second = true ∧
        first.canonical = second.canonical
  | ⟨_, name, returnType, parameters, body⟩,
      ⟨_, name', returnType', parameters', body'⟩ => by
      have sameParameters := parametersEqual_iff parameters parameters'
      have ownParameters := parametersEqual_iff parameters parameters
      have otherParameters := parametersEqual_iff parameters' parameters'
      have sameBody := operationsEqual_iff body body'
      simp only [ShaderFunction.equals, ShaderFunction.canonical,
        Bool.and_eq_true, beq_iff_eq, ShaderFunction.mk.injEq]
      grind

theorem operandsEqual_iff : ∀ first second : List Operand,
    operandsEqual first second = true ↔
      operandsEqual first first = true ∧
        operandsEqual second second = true ∧
          canonicalOperands first = canonicalOperands second
  | [], second => by
      cases second <;> simp [operandsEqual, canonicalOperands]
  | operand :: rest, second => by
      cases second with
      | nil =>
          simp [operandsEqual, canonicalOperands]
      | cons operand' rest' =>
          have sameHead := Operand.equals_iff operand operand'
          have sameRest := operandsEqual_iff rest rest'
          simp only [operandsEqual, canonicalOperands, Bool.and_eq_true,
            List.cons.injEq]
          grind

theorem operationsEqual_iff : ∀ first second : List Operation,
    operationsEqual first second = true ↔
      operationsEqual first first = true ∧
        operationsEqual second second = true ∧
          canonicalBody first = canonicalBody second
  | [], second => by
      cases second <;> simp [operationsEqual, canonicalBody]
  | operation :: rest, second => by
      cases second with
      | nil =>
          simp [operationsEqual, canonicalBody]
      | cons operation' rest' =>
          have sameHead := Operation.equals_iff operation operation'
          have sameRest := operationsEqual_iff rest rest'
          simp only [operationsEqual, canonicalBody, Bool.and_eq_true,
            List.cons.injEq]
          grind

end

end Equality

end Shaderwright
