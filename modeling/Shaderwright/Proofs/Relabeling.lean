import Shaderwright.Proofs.Calls
import Shaderwright.Tree.ArrayLength

/-!
Relabelled trees. A relabelling replaces the parameters, the numbers and the
handles of the functions of a tree and keeps the rest, so a relabelled tree is
walked like the tree (`bodyVisits_relabeled`). Changing the length of an array
is one relabelling, and forgetting all handles is another one.
-/

namespace Shaderwright

/-! ## Relabelled trees -/

/-- What takes the place of the parameters, of the numbers and of the handles
of functions. -/
structure Relabeling where
  parameter : Parameter → Parameter
  number : Binary32 → Binary32
  handle : Nat → Nat

/-- The literal with another number in the place of every number. -/
def Literal.mapNumbers (convert : Binary32 → Binary32) : Literal → Literal
  | scalar value => scalar (convert value)
  | boolean value => boolean value
  | vector2 values => vector2 (values.map convert)
  | vector3 values => vector3 (values.map convert)
  | vector4 values => vector4 (values.map convert)
  | matrix2 values => matrix2 (values.map convert)
  | matrix3 values => matrix3 (values.map convert)
  | matrix4 values => matrix4 (values.map convert)

mutual

def Operand.relabeled (labels : Relabeling) : Operand → Operand
  | .parameter symbol => .parameter (labels.parameter symbol)
  | .literal value => .literal (value.mapNumbers labels.number)
  | .builtIn source => .builtIn source
  | .operation node => .operation (node.relabeled labels)
  | .raw text => .raw text

def Operation.relabeled (labels : Relabeling) : Operation → Operation
  | .assign operator assigned value =>
      .assign operator (assigned.relabeled labels) (value.relabeled labels)
  | .declare symbol => .declare (labels.parameter symbol)
  | .arithmetic operator operands =>
      .arithmetic operator (relabeledOperands labels operands)
  | .compare operator left right =>
      .compare operator (left.relabeled labels) (right.relabeled labels)
  | .select base suffix => .select (base.relabeled labels) suffix
  | .builtIn function arguments =>
      .builtIn function (relabeledOperands labels arguments)
  | .ifThen condition body =>
      .ifThen (condition.relabeled labels) (relabeledBody labels body)
  | .ifElse condition body alternative =>
      .ifElse (condition.relabeled labels) (relabeledBody labels body)
        (relabeledBody labels alternative)
  | .loop initial condition step body =>
      .loop initial condition step (relabeledBody labels body)
  | .returnValue value => .returnValue (value.relabeled labels)
  | .returnVoid => .returnVoid
  | .call function arguments =>
      .call (function.relabeled labels) (relabeledOperands labels arguments)
  | .construct type operands =>
      .construct type (relabeledOperands labels operands)
  | .convert source type pad =>
      .convert (source.relabeled labels) type (labels.number pad)

def ShaderFunction.relabeled (labels : Relabeling) :
    ShaderFunction → ShaderFunction
  | ⟨handle, name, returnType, parameters, body⟩ =>
      ⟨labels.handle handle, name, returnType,
        parameters.map labels.parameter, relabeledBody labels body⟩

/-- The operands of a list, relabelled. -/
def relabeledOperands (labels : Relabeling) : List Operand → List Operand
  | [] => []
  | operand :: rest =>
      operand.relabeled labels :: relabeledOperands labels rest

/-- The operations of a body, relabelled. -/
def relabeledBody (labels : Relabeling) : List Operation → List Operation
  | [] => []
  | operation :: rest =>
      operation.relabeled labels :: relabeledBody labels rest

end

/-- A shader with a relabelled body. -/
def Shader.relabeled (labels : Relabeling) (shader : Shader) : Shader :=
  { shader with operations := relabeledBody labels shader.operations }

@[simp]
theorem Literal.type_mapNumbers (convert : Binary32 → Binary32)
    (value : Literal) : (value.mapNumbers convert).type = value.type := by
  cases value <;> rfl

@[simp]
theorem Literal.components_mapNumbers (convert : Binary32 → Binary32)
    (value : Literal) :
    (value.mapNumbers convert).components =
      value.components.map convert := by
  cases value <;>
    simp [Literal.mapNumbers, Literal.components, Vector.toList_map]

@[simp]
theorem Literal.mapNumbers_id (value : Literal) :
    value.mapNumbers id = value := by
  cases value <;> simp [Literal.mapNumbers]

@[simp]
theorem Literal.mapNumbers_mapNumbers (first second : Binary32 → Binary32)
    (value : Literal) :
    (value.mapNumbers first).mapNumbers second =
      value.mapNumbers (second ∘ first) := by
  cases value <;> simp [Literal.mapNumbers]

/-! ## Relabelling twice -/

/-- One relabelling after another one. -/
def Relabeling.andThen (first second : Relabeling) : Relabeling where
  parameter := second.parameter ∘ first.parameter
  number := second.number ∘ first.number
  handle := second.handle ∘ first.handle

section Twice

variable (first second : Relabeling)

mutual

private theorem operandRelabeled_relabeled : ∀ operand : Operand,
    (operand.relabeled first).relabeled second =
      operand.relabeled (first.andThen second)
  | .parameter _ | .literal _ | .builtIn _ | .raw _ => by
      simp [Operand.relabeled, Relabeling.andThen]
  | .operation node => by
      simp [Operand.relabeled, operationRelabeled_relabeled node]

private theorem operationRelabeled_relabeled : ∀ node : Operation,
    (node.relabeled first).relabeled second =
      node.relabeled (first.andThen second)
  | .assign _ left right | .compare _ left right => by
      simp [Operation.relabeled, operandRelabeled_relabeled left,
        operandRelabeled_relabeled right]
  | .declare _ | .returnVoid => by
      simp [Operation.relabeled, Relabeling.andThen]
  | .arithmetic _ operands | .builtIn _ operands
  | .construct _ operands => by
      simp [Operation.relabeled, relabeledOperands_relabeled operands]
  | .select operand _ | .returnValue operand => by
      simp [Operation.relabeled, operandRelabeled_relabeled operand]
  | .ifThen condition body => by
      simp [Operation.relabeled, operandRelabeled_relabeled condition,
        relabeledBody_relabeled body]
  | .ifElse condition body alternative => by
      simp [Operation.relabeled, operandRelabeled_relabeled condition,
        relabeledBody_relabeled body, relabeledBody_relabeled alternative]
  | .loop _ _ _ body => by
      simp [Operation.relabeled, relabeledBody_relabeled body]
  | .call function arguments => by
      simp [Operation.relabeled, ShaderFunction.relabeled_relabeled function,
        relabeledOperands_relabeled arguments]
  | .convert source type pad => by
      simp [Operation.relabeled, operandRelabeled_relabeled source,
        Relabeling.andThen]

theorem ShaderFunction.relabeled_relabeled : ∀ function : ShaderFunction,
    (function.relabeled first).relabeled second =
      function.relabeled (first.andThen second)
  | ⟨handle, name, returnType, parameters, body⟩ => by
      simp [ShaderFunction.relabeled, relabeledBody_relabeled body,
        Relabeling.andThen]

private theorem relabeledOperands_relabeled : ∀ operands : List Operand,
    relabeledOperands second (relabeledOperands first operands) =
      relabeledOperands (first.andThen second) operands
  | [] => by
      simp [relabeledOperands]
  | operand :: rest => by
      simp [relabeledOperands, operandRelabeled_relabeled operand,
        relabeledOperands_relabeled rest]

theorem relabeledBody_relabeled : ∀ body : List Operation,
    relabeledBody second (relabeledBody first body) =
      relabeledBody (first.andThen second) body
  | [] => by
      simp [relabeledBody]
  | operation :: rest => by
      simp [relabeledBody, operationRelabeled_relabeled operation,
        relabeledBody_relabeled rest]

end

end Twice

/-! ## Parts of a relabelled tree -/

section Parts

variable (labels : Relabeling)

@[simp]
theorem ShaderFunction.handle_relabeled (function : ShaderFunction) :
    (function.relabeled labels).handle = labels.handle function.handle := by
  obtain ⟨handle, name, returnType, parameters, body⟩ := function
  rfl

@[simp]
theorem ShaderFunction.name_relabeled (function : ShaderFunction) :
    (function.relabeled labels).name = function.name := by
  obtain ⟨handle, name, returnType, parameters, body⟩ := function
  rfl

@[simp]
theorem ShaderFunction.returnType_relabeled (function : ShaderFunction) :
    (function.relabeled labels).returnType = function.returnType := by
  obtain ⟨handle, name, returnType, parameters, body⟩ := function
  rfl

@[simp]
theorem ShaderFunction.parameters_relabeled (function : ShaderFunction) :
    (function.relabeled labels).parameters =
      function.parameters.map labels.parameter := by
  obtain ⟨handle, name, returnType, parameters, body⟩ := function
  rfl

@[simp]
theorem ShaderFunction.body_relabeled (function : ShaderFunction) :
    (function.relabeled labels).body =
      relabeledBody labels function.body := by
  obtain ⟨handle, name, returnType, parameters, body⟩ := function
  rfl

@[simp]
theorem length_relabeledOperands (operands : List Operand) :
    (relabeledOperands labels operands).length = operands.length := by
  induction operands with
  | nil =>
      rfl
  | cons operand rest inductionHypothesis =>
      simp [relabeledOperands, inductionHypothesis]

@[simp]
theorem Operand.declared?_relabeled (operand : Operand) :
    (operand.relabeled labels).declared? =
      operand.declared?.map labels.parameter := by
  cases operand with
  | operation node =>
      cases node <;>
        simp [Operand.relabeled, Operation.relabeled, Operand.declared?]
  | _ =>
      simp [Operand.relabeled, Operand.declared?]

theorem Operand.isInfix_relabeled (operand : Operand) :
    (operand.relabeled labels).isInfix = operand.isInfix := by
  cases operand with
  | operation node =>
      cases node <;> simp [Operand.relabeled, Operation.relabeled] <;> rfl
  | _ =>
      simp [Operand.relabeled, Operand.isInfix]

/-! ## Visits -/

/-- A visit of a relabelled tree. -/
def Visit.relabeled : Visit → Visit
  | .parameter symbol => .parameter (labels.parameter symbol)
  | .literal value => .literal (value.mapNumbers labels.number)
  | .builtIn source => .builtIn source
  | .introduced symbol => .introduced (labels.parameter symbol)
  | .operation position node =>
      .operation position (node.relabeled labels)
  | .padding source type pad =>
      .padding (source.relabeled labels) type (labels.number pad)

@[simp]
theorem Visit.callee?_relabeled (visit : Visit) :
    (visit.relabeled labels).callee? =
      visit.callee?.map (ShaderFunction.relabeled labels) := by
  cases visit with
  | operation position node =>
      cases node <;>
        simp [Visit.relabeled, Operation.relabeled, Visit.callee?]
  | _ =>
      simp [Visit.relabeled, Visit.callee?]

mutual

private theorem operandVisits_relabeled : ∀ operand : Operand,
    (operand.relabeled labels).visits =
      operand.visits.map (Visit.relabeled labels)
  | .parameter _ | .literal _ | .builtIn _ | .raw _ => by
      simp [Operand.relabeled, Operand.visits, Visit.relabeled]
  | .operation node => by
      simp [Operand.relabeled, Operand.visits,
        operationVisits_relabeled .value node]

private theorem operationVisits_relabeled (position : Position) :
    ∀ node : Operation,
      (node.relabeled labels).visits position =
        (node.visits position).map (Visit.relabeled labels)
  | .assign operator assigned value => by
      have target := Operand.declared?_relabeled labels assigned
      cases declared : assigned.declared? with
      | some symbol =>
          rw [declared, Option.map_some] at target
          simp [Operation.relabeled, Operation.visits, Visit.relabeled,
            declared, target, operandVisits_relabeled value]
      | none =>
          rw [declared, Option.map_none] at target
          simp [Operation.relabeled, Operation.visits, Visit.relabeled,
            declared, target, operandVisits_relabeled assigned,
            operandVisits_relabeled value]
  | .declare _ | .returnVoid => by
      simp [Operation.relabeled, Operation.visits, Visit.relabeled]
  | .arithmetic _ operands | .builtIn _ operands | .call _ operands
  | .construct _ operands => by
      simp [Operation.relabeled, Operation.visits, Visit.relabeled,
        operandListVisits_relabeled operands]
  | .compare operator left right => by
      simp [Operation.relabeled, Operation.visits, Visit.relabeled,
        operandVisits_relabeled left, operandVisits_relabeled right]
  | .select operand _ | .returnValue operand | .convert operand _ _ => by
      simp [Operation.relabeled, Operation.visits, Visit.relabeled,
        operandVisits_relabeled operand]
  | .ifThen condition body => by
      simp [Operation.relabeled, Operation.visits, Visit.relabeled,
        operandVisits_relabeled condition, bodyVisits_relabeled _ body]
  | .ifElse condition body alternative => by
      simp [Operation.relabeled, Operation.visits, Visit.relabeled,
        operandVisits_relabeled condition, bodyVisits_relabeled _ body,
        bodyVisits_relabeled _ alternative]
  | .loop initial condition step body => by
      simp [Operation.relabeled, Operation.visits, Visit.relabeled,
        bodyVisits_relabeled _ body]

private theorem operandListVisits_relabeled : ∀ operands : List Operand,
    operandVisits (relabeledOperands labels operands) =
      (operandVisits operands).map (Visit.relabeled labels)
  | [] => by
      simp [relabeledOperands, operandVisits]
  | operand :: rest => by
      simp [relabeledOperands, operandVisits,
        operandVisits_relabeled operand, operandListVisits_relabeled rest]

/-- A relabelled body is visited like the body. -/
theorem bodyVisits_relabeled (level : Nat) : ∀ body : List Operation,
    bodyVisits level (relabeledBody labels body) =
      (bodyVisits level body).map (Visit.relabeled labels)
  | [] => by
      simp [relabeledBody, bodyVisits]
  | operation :: rest => by
      simp [relabeledBody, bodyVisits,
        operationVisits_relabeled (.statement level) operation,
        bodyVisits_relabeled level rest]

end

theorem bodyCallees_relabeled (body : List Operation) :
    bodyCallees (relabeledBody labels body) =
      (bodyCallees body).map (ShaderFunction.relabeled labels) := by
  unfold bodyCallees
  rw [bodyVisits_relabeled, List.filterMap_map, List.map_filterMap]
  exact congrArg (List.filterMap · _)
    (funext (Visit.callee?_relabeled labels))

/-- The functions called from a relabelled body are the relabelled ones. -/
theorem calledFrom_relabeled_iff {body : List Operation}
    {function : ShaderFunction} :
    CalledFrom (relabeledBody labels body) function ↔
      ∃ original, CalledFrom body original ∧
        original.relabeled labels = function := by
  constructor
  · intro called
    induction called with
    | direct called =>
        rw [bodyCallees_relabeled] at called
        obtain ⟨original, member, same⟩ := List.mem_map.mp called
        exact ⟨original, .direct member, same⟩
    | through _ called inductionHypothesis =>
        obtain ⟨caller, reached, rfl⟩ := inductionHypothesis
        rw [ShaderFunction.body_relabeled, bodyCallees_relabeled] at called
        obtain ⟨original, member, same⟩ := List.mem_map.mp called
        exact ⟨original, .through reached member, same⟩
  · rintro ⟨original, called, rfl⟩
    induction called with
    | direct called =>
        refine .direct ?_
        rw [bodyCallees_relabeled]
        exact List.mem_map_of_mem called
    | through _ called inductionHypothesis =>
        refine .through inductionHypothesis ?_
        rw [ShaderFunction.body_relabeled, bodyCallees_relabeled]
        exact List.mem_map_of_mem called

/-! ## Declarations -/

mutual

private theorem operandDeclarations_relabeled : ∀ operand : Operand,
    (operand.relabeled labels).declarations =
      operand.declarations.map labels.parameter
  | .operation node => by
      simp [Operand.relabeled, Operand.declarations,
        operationDeclarations_relabeled node]
  | .parameter _ | .literal _ | .builtIn _ | .raw _ => by
      simp [Operand.relabeled, Operand.declarations]

private theorem operationDeclarations_relabeled : ∀ node : Operation,
    (node.relabeled labels).declarations =
      node.declarations.map labels.parameter
  | .assign _ left right | .compare _ left right => by
      simp [Operation.relabeled, Operation.declarations,
        operandDeclarations_relabeled left,
        operandDeclarations_relabeled right]
  | .declare _ | .returnVoid => by
      simp [Operation.relabeled, Operation.declarations]
  | .select operand _ | .returnValue operand | .convert operand _ _ => by
      simp [Operation.relabeled, Operation.declarations,
        operandDeclarations_relabeled operand]
  | .arithmetic _ operands | .builtIn _ operands | .call _ operands
  | .construct _ operands => by
      simp [Operation.relabeled, Operation.declarations,
        operandListDeclarations_relabeled operands]
  | .ifThen condition body => by
      simp [Operation.relabeled, Operation.declarations,
        operandDeclarations_relabeled condition,
        bodyDeclarations_relabeled body]
  | .ifElse condition body alternative => by
      simp [Operation.relabeled, Operation.declarations,
        operandDeclarations_relabeled condition,
        bodyDeclarations_relabeled body,
        bodyDeclarations_relabeled alternative]
  | .loop _ _ _ body => by
      simp [Operation.relabeled, Operation.declarations,
        bodyDeclarations_relabeled body]

private theorem operandListDeclarations_relabeled :
    ∀ operands : List Operand,
      operandDeclarations (relabeledOperands labels operands) =
        (operandDeclarations operands).map labels.parameter
  | [] => by
      simp [relabeledOperands, operandDeclarations]
  | operand :: rest => by
      simp [relabeledOperands, operandDeclarations,
        operandDeclarations_relabeled operand,
        operandListDeclarations_relabeled rest]

theorem bodyDeclarations_relabeled : ∀ body : List Operation,
    bodyDeclarations (relabeledBody labels body) =
      (bodyDeclarations body).map labels.parameter
  | [] => by
      simp [relabeledBody, bodyDeclarations]
  | operation :: rest => by
      simp [relabeledBody, bodyDeclarations,
        operationDeclarations_relabeled operation,
        bodyDeclarations_relabeled rest]

end

/-! ## Types -/

/-- A relabelling that keeps what a parameter is declared as. -/
def Relabeling.KeepsDeclarations : Prop :=
  ∀ symbol, (labels.parameter symbol).symbol = symbol.symbol

variable {labels}

namespace Relabeling.KeepsDeclarations

theorem type (keeps : labels.KeepsDeclarations) (symbol : Parameter) :
    (labels.parameter symbol).type = symbol.type :=
  congrArg Symbol.type (keeps symbol)

private theorem arrayType? (keeps : labels.KeepsDeclarations)
    (operand : Operand) :
    (operand.relabeled labels).arrayType? = operand.arrayType? := by
  cases operand with
  | parameter symbol =>
      have arrayLength :
          (labels.parameter symbol).arrayLength = symbol.arrayLength :=
        congrArg Symbol.arrayLength (keeps symbol)
      simp [Operand.relabeled, Operand.arrayType?, Parameter.isArray,
        arrayLength, keeps.type]
  | _ =>
      simp [Operand.relabeled, Operand.arrayType?]

mutual

/-- Types are read off the declarations. -/
theorem operandType? (keeps : labels.KeepsDeclarations) :
    ∀ operand : Operand, (operand.relabeled labels).type? = operand.type?
  | .parameter _ | .literal _ | .builtIn _ | .raw _ => by
      simp [Operand.relabeled, Operand.type?, keeps.type]
  | .operation node => by
      simp [Operand.relabeled, Operand.type?, operationType? keeps node]

private theorem operationType? (keeps : labels.KeepsDeclarations) :
    ∀ node : Operation, (node.relabeled labels).type? = node.type?
  | .assign operator assigned value => by
      simp [Operation.relabeled, Operation.type?,
        operandType? keeps assigned]
  | .declare symbol => by
      simp [Operation.relabeled, Operation.type?, keeps.type]
  | .select base suffix => by
      simp [Operation.relabeled, Operation.type?, operandType? keeps base,
        keeps.arrayType?]
  | .arithmetic _ operands | .builtIn _ operands => by
      simp [Operation.relabeled, Operation.type?,
        operandTypes? keeps operands]
  | .compare .. | .ifThen .. | .ifElse .. | .loop .. | .returnValue ..
  | .returnVoid | .call .. | .construct .. | .convert .. => by
      simp [Operation.relabeled, Operation.type?]

private theorem operandTypes? (keeps : labels.KeepsDeclarations) :
    ∀ operands : List Operand,
      operandTypes (relabeledOperands labels operands) =
        operandTypes operands
  | [] => by
      simp [relabeledOperands]
  | operand :: rest => by
      simp [relabeledOperands, operandTypes, operandType? keeps operand,
        operandTypes? keeps rest]

end

theorem operandComponents? (keeps : labels.KeepsDeclarations)
    (operand : Operand) :
    (operand.relabeled labels).components? = operand.components? := by
  rw [Operand.components?, Operand.components?, keeps.operandType?]

theorem operandComponentCounts? (keeps : labels.KeepsDeclarations)
    (operands : List Operand) :
    componentCounts? (relabeledOperands labels operands) =
      componentCounts? operands := by
  induction operands with
  | nil =>
      rfl
  | cons operand rest inductionHypothesis =>
      simp [relabeledOperands, componentCounts?, inductionHypothesis,
        keeps.operandComponents?]

end Relabeling.KeepsDeclarations

end Parts

/-! ## Changing the length of an array -/

/-- The relabelling that changes the array length of one symbol. -/
def Relabeling.arrayLength (handle length : Nat) : Relabeling where
  parameter := Parameter.withArrayLength handle length
  number := id
  handle := id

section ArrayLength

variable (handle length : Nat)

mutual

private theorem operandWithArrayLength_eq : ∀ operand : Operand,
    operand.withArrayLength handle length =
      operand.relabeled (.arrayLength handle length)
  | .parameter _ | .literal _ | .builtIn _ | .raw _ => by
      simp [Operand.withArrayLength, Operand.relabeled,
        Relabeling.arrayLength]
  | .operation node => by
      simp [Operand.withArrayLength, Operand.relabeled,
        operationWithArrayLength_eq node]

private theorem operationWithArrayLength_eq : ∀ node : Operation,
    node.withArrayLength handle length =
      node.relabeled (.arrayLength handle length)
  | .assign _ left right | .compare _ left right => by
      simp [Operation.withArrayLength, Operation.relabeled,
        operandWithArrayLength_eq left, operandWithArrayLength_eq right]
  | .declare _ | .returnVoid => by
      simp [Operation.withArrayLength, Operation.relabeled,
        Relabeling.arrayLength]
  | .arithmetic _ operands | .builtIn _ operands
  | .construct _ operands => by
      simp [Operation.withArrayLength, Operation.relabeled,
        operandsWithArrayLength_eq operands]
  | .select operand _ | .returnValue operand => by
      simp [Operation.withArrayLength, Operation.relabeled,
        operandWithArrayLength_eq operand]
  | .ifThen condition body => by
      simp [Operation.withArrayLength, Operation.relabeled,
        operandWithArrayLength_eq condition, bodyWithArrayLength_eq body]
  | .ifElse condition body alternative => by
      simp [Operation.withArrayLength, Operation.relabeled,
        operandWithArrayLength_eq condition, bodyWithArrayLength_eq body,
        bodyWithArrayLength_eq alternative]
  | .loop _ _ _ body => by
      simp [Operation.withArrayLength, Operation.relabeled,
        bodyWithArrayLength_eq body]
  | .call function arguments => by
      simp [Operation.withArrayLength, Operation.relabeled,
        functionWithArrayLength_eq function,
        operandsWithArrayLength_eq arguments]
  | .convert source type pad => by
      simp [Operation.withArrayLength, Operation.relabeled,
        operandWithArrayLength_eq source, Relabeling.arrayLength]

private theorem functionWithArrayLength_eq : ∀ function : ShaderFunction,
    function.withArrayLength handle length =
      function.relabeled (.arrayLength handle length)
  | ⟨identity, name, returnType, parameters, body⟩ => by
      simp [ShaderFunction.withArrayLength, ShaderFunction.relabeled,
        bodyWithArrayLength_eq body, Relabeling.arrayLength]

private theorem operandsWithArrayLength_eq : ∀ operands : List Operand,
    operandsWithArrayLength handle length operands =
      relabeledOperands (.arrayLength handle length) operands
  | [] => by
      simp [operandsWithArrayLength, relabeledOperands]
  | operand :: rest => by
      simp [operandsWithArrayLength, relabeledOperands,
        operandWithArrayLength_eq operand, operandsWithArrayLength_eq rest]

private theorem bodyWithArrayLength_eq : ∀ body : List Operation,
    bodyWithArrayLength handle length body =
      relabeledBody (.arrayLength handle length) body
  | [] => by
      simp [bodyWithArrayLength, relabeledBody]
  | operation :: rest => by
      simp [bodyWithArrayLength, relabeledBody,
        operationWithArrayLength_eq operation, bodyWithArrayLength_eq rest]

end

/-- Changing the length of an array relabels the tree. -/
theorem Shader.withArrayLength_eq (shader : Shader) :
    shader.withArrayLength handle length =
      shader.relabeled (.arrayLength handle length) := by
  rw [Shader.withArrayLength, Shader.relabeled, bodyWithArrayLength_eq]

end ArrayLength

end Shaderwright
