import Shaderwright.Proofs.Typing.ArithmeticChains
import Shaderwright.Proofs.Typing.Suffixes

/-!
Types of expressions by the rules of the target language, and the types that
inference finds. The rules give a type to well-typed expressions only, while
inference never checks an expression; where the rules give a type, inference
finds the same one (`Operand.inferredType_of_hasType`).
-/

namespace Shaderwright

/-! ## The typing rules -/

/-- The sets of letters that name the components of a vector, in their
order. -/
def swizzleAlphabets : List (List Char) :=
  [['x', 'y', 'z', 'w'], ['r', 'g', 'b', 'a'], ['s', 't', 'p', 'q']]

/-- Letters of one set, each of which names a component that a vector has. -/
def ShaderType.Swizzles (vector : ShaderType) (letters : List Char) : Prop :=
  ∃ alphabet ∈ swizzleAlphabets,
    ∀ letter ∈ letters, letter ∈ alphabet.take vector.size

instance (vector : ShaderType) (letters : List Char) :
    Decidable (vector.Swizzles letters) :=
  decidable_of_iff
    (swizzleAlphabets.any fun alphabet =>
      letters.all (alphabet.take vector.size).contains)
    (by simp [ShaderType.Swizzles])

/-- Where a call of a built-in function takes its type from. -/
inductive ResultRule where
  | always (type : ShaderType)
  | asFirst
  | asLast
  | never

def BuiltInFunction.resultRule : BuiltInFunction → ResultRule
  | dot => .always .scalar
  | length => .always .scalar
  | distance => .always .scalar
  | cross => .always .vector3
  | texture2D => .always .vector4
  | step => .asLast
  | smoothStep => .asLast
  | discard => .never
  | _ => .asFirst

/-- The rules give a type to an expression. Operands whose type does not
matter for that of the whole may have any, or none. -/
inductive Operand.HasType : Operand → ShaderType → Prop
  | parameter {symbol : Parameter} (plain : symbol.arrayLength = 0) :
      HasType (.parameter symbol) symbol.type
  | literal (value : Literal) : HasType (.literal value) value.type
  | builtIn (source : BuiltInVariable) : HasType (.builtIn source) source.type
  | declare {symbol : Parameter} (plain : symbol.arrayLength = 0) :
      HasType (.operation (.declare symbol)) symbol.type
  | assign (operator : AssignmentOperator) {target value : Operand}
      {type : ShaderType} (typed : HasType target type) :
      HasType (.operation (.assign operator target value)) type
  | arithmetic {operator : ArithmeticOperator} {operands : List Operand}
      {types : List ShaderType} {type : ShaderType}
      (oneEach : operands.length = types.length)
      (typed : ∀ pair ∈ operands.zip types, HasType pair.1 pair.2)
      (chain : operator.chainType? types = some type) :
      HasType (.operation (.arithmetic operator operands)) type
  | compare (operator : ComparisonOperator) (left right : Operand) :
      HasType (.operation (.compare operator left right)) .boolean
  | swizzle {base : Operand} {vector type : ShaderType} {suffix : String}
      {letters : List Char} (spelled : suffix.toList = '.' :: letters)
      (typed : HasType base vector) (isVector : vector.isVector = true)
      (valid : vector.Swizzles letters)
      (count : ShaderType.vector? letters.length = some type) :
      HasType (.operation (.select base suffix)) type
  | arrayElement {symbol : Parameter} {suffix : String}
      (array : 0 < symbol.arrayLength) (index : IsIndexGroup suffix) :
      HasType (.operation (.select (.parameter symbol) suffix)) symbol.type
  | matrixColumn {base : Operand} {matrix column : ShaderType}
      {suffix : String} (typed : HasType base matrix)
      (isColumn : matrix.column? = some column)
      (index : IsIndexGroup suffix) :
      HasType (.operation (.select base suffix)) column
  | vectorComponent {base : Operand} {vector : ShaderType} {suffix : String}
      (typed : HasType base vector) (isVector : vector.isVector = true)
      (index : IsIndexGroup suffix) :
      HasType (.operation (.select base suffix)) .scalar
  | fixedResult {function : BuiltInFunction} {arguments : List Operand}
      {type : ShaderType} (rule : function.resultRule = .always type)
      (complete : arguments.length = function.arity) :
      HasType (.operation (.builtIn function arguments)) type
  | firstArgument {function : BuiltInFunction} {first : Operand}
      {rest : List Operand} {type : ShaderType}
      (rule : function.resultRule = .asFirst)
      (complete : (first :: rest).length = function.arity)
      (typed : HasType first type) :
      HasType (.operation (.builtIn function (first :: rest))) type
  | lastArgument {function : BuiltInFunction} {start : List Operand}
      {last : Operand} {type : ShaderType}
      (rule : function.resultRule = .asLast)
      (complete : (start ++ [last]).length = function.arity)
      (typed : HasType last type) :
      HasType (.operation (.builtIn function (start ++ [last]))) type
  | call {function : ShaderFunction} (arguments : List Operand)
      {type : ShaderType} (returns : function.returnType = some type) :
      HasType (.operation (.call function arguments)) type
  | construct (type : ShaderType) (operands : List Operand) :
      HasType (.operation (.construct type operands)) type
  | convert (source : Operand) (target : ShaderType) (pad : Binary32) :
      HasType (.operation (.convert source target pad)) target

/-! ## Inference by the rules -/

theorem operandTypes_eq_map (operands : List Operand) :
    operandTypes operands = operands.map Operand.type? := by
  induction operands with
  | nil =>
      rfl
  | cons operand rest inductionHypothesis =>
      rw [operandTypes, List.map_cons, inductionHypothesis]

/-- Operands whose types are known one by one. -/
theorem operandTypes_eq_map_some {operands : List Operand}
    {types : List ShaderType} (oneEach : operands.length = types.length)
    (inferred : ∀ pair ∈ operands.zip types, pair.1.type? = some pair.2) :
    operandTypes operands = types.map some := by
  induction operands generalizing types with
  | nil =>
      rw [List.length_nil, eq_comm, List.length_eq_zero_iff] at oneEach
      rw [oneEach]
      rfl
  | cons operand rest inductionHypothesis =>
      cases types with
      | nil =>
          cases oneEach
      | cons type types =>
          rw [List.zip_cons_cons, List.forall_mem_cons] at inferred
          have later := inductionHypothesis (Nat.succ.inj oneEach) inferred.2
          rw [operandTypes, inferred.1, later, List.map_cons]

/-- Letters that name components are letters of selections. -/
theorem ShaderType.Swizzles.letters {vector : ShaderType}
    {letters : List Char} (valid : vector.Swizzles letters) :
    ∀ letter ∈ letters, letter ∈ swizzleLetters := by
  have known : ∀ alphabet ∈ swizzleAlphabets, alphabet ⊆ swizzleLetters := by
    decide
  obtain ⟨alphabet, isAlphabet, named⟩ := valid
  exact fun letter member =>
    known alphabet isAlphabet (List.mem_of_mem_take (named letter member))

theorem swizzleType?_eq {vector type : ShaderType} {letters : List Char}
    (isVector : vector.isVector = true) (valid : vector.Swizzles letters)
    (count : ShaderType.vector? letters.length = some type) :
    swizzleType? vector letters = some type := by
  have nonempty : letters.isEmpty = false := by
    cases letters with
    | nil =>
        cases count
    | cons letter rest =>
        rfl
  simpa [swizzleType?, isVector, nonempty, count] using valid.letters

/-- No expression of an array has a type by the rules. -/
theorem Operand.HasType.arrayType?_eq_none {base : Operand}
    {type : ShaderType} (typed : base.HasType type) :
    base.arrayType? = none := by
  cases typed with
  | parameter plain =>
      simp [Operand.arrayType?, Parameter.isArray, plain]
  | _ =>
      rfl

theorem elementType?_of_column? {matrix column : ShaderType}
    (isColumn : matrix.column? = some column) :
    elementType? matrix = some column := by
  cases matrix <;> cases isColumn <;> rfl

theorem elementType?_of_isVector {vector : ShaderType}
    (isVector : vector.isVector = true) :
    elementType? vector = some .scalar := by
  cases vector <;> cases isVector <;> rfl

/-- What one index selects from an expression. -/
theorem Operand.type?_select_index {base : Operand}
    {type element : ShaderType} {suffix : String}
    (inferred : base.type? = some type)
    (indexed : indexedType? type base.arrayType? = some element)
    (index : IsIndexGroup suffix) :
    (Operand.operation (.select base suffix)).type? = some element := by
  rw [Operand.type?, Operation.type?_select, inferred, Option.bind_some,
    index.isBracketed.selectionType?_eq]
  exact indexed

theorem BuiltInFunction.resultType?_of_always {function : BuiltInFunction}
    {type : ShaderType} (rule : function.resultRule = .always type)
    (types : List (Option ShaderType)) :
    function.resultType? types = some type := by
  cases function <;> cases rule <;> rfl

theorem BuiltInFunction.resultType?_of_asFirst {function : BuiltInFunction}
    (rule : function.resultRule = .asFirst) (first : Option ShaderType)
    (rest : List (Option ShaderType)) :
    function.resultType? (first :: rest) = first := by
  cases function <;> cases rule <;> rfl

/-- The last argument is the one behind all others that a function takes. -/
theorem BuiltInFunction.resultType?_of_asLast {function : BuiltInFunction}
    (rule : function.resultRule = .asLast) {start : List (Option ShaderType)}
    {last : Option ShaderType}
    (complete : (start ++ [last]).length = function.arity) :
    function.resultType? (start ++ [last]) = last := by
  have place : function.resultType? (start ++ [last]) =
      (start ++ [last])[function.arity - 1]?.join := by
    cases function <;> cases rule <;> rfl
  have behind : function.arity - 1 = start.length := by
    rw [← complete, List.length_append, List.length_singleton,
      Nat.add_sub_cancel]
  rw [place, behind, List.getElem?_concat_length]
  rfl

/-- Inference finds the type that the rules give. -/
theorem Operand.inferredType_of_hasType {operand : Operand}
    {type : ShaderType} (typed : operand.HasType type) :
    operand.type? = some type := by
  induction typed with
  | parameter plain => rfl
  | literal value => rfl
  | builtIn source => rfl
  | declare plain => rfl
  | assign operator typed inductionHypothesis =>
      rw [Operand.type?, Operation.type?]
      exact inductionHypothesis
  | arithmetic oneEach typed chain inductionHypothesis =>
      rw [Operand.type?, Operation.type?,
        operandTypes_eq_map_some oneEach inductionHypothesis]
      exact ArithmeticOperator.arithmeticType?_eq chain
  | compare operator left right => rfl
  | swizzle spelled typed isVector valid count inductionHypothesis =>
      rw [Operand.type?, Operation.type?_select, inductionHypothesis]
      exact selectionType?_eq_some_iff.mpr <|
        Or.inl ⟨_, spelled, swizzleType?_eq isVector valid count⟩
  | arrayElement array index =>
      refine Operand.type?_select_index rfl ?_ index
      simp [indexedType?, Operand.arrayType?, Parameter.isArray, array]
  | matrixColumn typed isColumn index inductionHypothesis =>
      refine Operand.type?_select_index inductionHypothesis ?_ index
      rw [typed.arrayType?_eq_none]
      exact elementType?_of_column? isColumn
  | vectorComponent typed isVector index inductionHypothesis =>
      refine Operand.type?_select_index inductionHypothesis ?_ index
      rw [typed.arrayType?_eq_none]
      exact elementType?_of_isVector isVector
  | fixedResult rule complete =>
      rw [Operand.type?, Operation.type?]
      exact BuiltInFunction.resultType?_of_always rule _
  | firstArgument rule complete typed inductionHypothesis =>
      rw [Operand.type?, Operation.type?, operandTypes,
        BuiltInFunction.resultType?_of_asFirst rule]
      exact inductionHypothesis
  | lastArgument rule complete typed inductionHypothesis =>
      rw [Operand.type?, Operation.type?, operandTypes_eq_map,
        List.map_append, List.map_singleton,
        BuiltInFunction.resultType?_of_asLast rule (by
          simpa using complete)]
      exact inductionHypothesis
  | call arguments returns => exact returns
  | construct type operands => rfl
  | convert source target pad => rfl

section Examples

/-- Directions of lights, as they are declared in a shader. -/
def lightsParameter : Parameter :=
  ⟨0, "lights", .vector3, .constant, 4⟩

/-- A matrix that turns a mesh in the scene. -/
def turnParameter : Parameter :=
  ⟨1, "turn", .matrix3, .constant, 0⟩

/-- `turn * lights[i] * turn[2].z`. -/
def turnedOperand : Operand :=
  .operation <| .arithmetic .multiply
    [.parameter turnParameter,
      .operation (.select (.parameter lightsParameter) "[i]"),
      .operation <| .select
        (.operation (.select (.parameter turnParameter) "[2]")) ".z"]

theorem turnedOperand_inferred : turnedOperand.type? = some .vector3 := by
  have counter : IsIndexGroup "[i]" := ⟨['i'], by decide, by decide⟩
  have number : IsIndexGroup "[2]" := ⟨['2'], by decide, by decide⟩
  have light : Operand.HasType
      (.operation (.select (.parameter lightsParameter) "[i]")) .vector3 :=
    .arrayElement (by decide) counter
  have column : Operand.HasType
      (.operation (.select (.parameter turnParameter) "[2]")) .vector3 :=
    .matrixColumn (.parameter rfl) rfl number
  have spelled : ".z".toList = '.' :: ['z'] := by decide
  have component : Operand.HasType (.operation <| .select
      (.operation (.select (.parameter turnParameter) "[2]")) ".z")
      .scalar :=
    .swizzle spelled column rfl (by decide) rfl
  have chain : ArithmeticOperator.multiply.chainType?
      [.matrix3, .vector3, .scalar] = some .vector3 := by decide
  refine Operand.inferredType_of_hasType (.arithmetic ?_ ?_ chain)
  · rfl
  · simp only [List.zip_cons_cons, List.zip_nil_left, List.forall_mem_cons]
    exact ⟨.parameter rfl, light, component, by simp⟩

end Examples

end Shaderwright
