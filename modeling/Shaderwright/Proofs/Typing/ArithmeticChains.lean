import Shaderwright.Tree.Typing

/-!
Types of arithmetic chains. By the rules of the target language a chain is
typed from left to right; inference looks for the widest vector instead, then
for a matrix, and takes the first operand otherwise. Where the rules give a
type, it is that of the largest operand, and inference finds it
(`ArithmeticOperator.arithmeticType?_eq`).
-/

namespace Shaderwright

/-! ## Arithmetic by the rules -/

/-- A matrix and a vector of the same dimension, in either order, have a
vector as their product. -/
def productType? (left right : ShaderType) : Option ShaderType :=
  if left.column? = some right then
    some right
  else if right.column? = some left then
    some left
  else
    none

/-- The type of an arithmetic operation on two values. Values of one type stay
in it, and a scalar goes with every component of a vector or of a matrix. -/
def ArithmeticOperator.binaryType? (operator : ArithmeticOperator)
    (left right : ShaderType) : Option ShaderType :=
  if left = right then
    some left
  else if left = .scalar ∧ (right.isVector || right.isMatrix) = true then
    some right
  else if right = .scalar ∧ (left.isVector || left.isMatrix) = true then
    some left
  else if operator = .multiply then
    productType? left right
  else
    none

/-- The type of a chain, which groups to the left. -/
def ArithmeticOperator.chainType? (operator : ArithmeticOperator) :
    List ShaderType → Option ShaderType
  | [] => none
  | first :: rest => rest.foldlM operator.binaryType? first

/-! ## Arithmetic by the largest operand -/

/-- Vectors come above matrices, and matrices above all else. -/
def ShaderType.rank (type : ShaderType) : Nat :=
  if type.isVector then 2 else if type.isMatrix then 1 else 0

theorem ShaderType.rank_column {type column : ShaderType}
    (isColumn : type.column? = some column) : type.rank < column.rank := by
  cases type <;> simp [ShaderType.column?] at isColumn
  all_goals
    subst isColumn
    decide

theorem ShaderType.rank_scalar_lt {type : ShaderType}
    (composite : (type.isVector || type.isMatrix) = true) :
    ShaderType.scalar.rank < type.rank := by
  cases type <;> revert composite <;> decide

theorem ShaderType.rank_le_of_isVector {type other : ShaderType}
    (isVector : other.isVector = true) : type.rank ≤ other.rank := by
  simp only [ShaderType.rank, isVector, if_true]
  split
  · exact Nat.le_refl 2
  · split <;> decide

theorem ShaderType.rank_le_of_isMatrix {type other : ShaderType}
    (noVector : type.isVector = false) (isMatrix : other.isMatrix = true) :
    type.rank ≤ other.rank := by
  have bound : type.rank ≤ 1 := by
    simp only [ShaderType.rank, noVector, Bool.false_eq_true, if_false]
    split <;> decide
  have reached : 1 ≤ other.rank := by
    simp only [ShaderType.rank, isMatrix]
    split <;> decide
  exact Nat.le_trans bound reached

/-- A type stands above another one, or it is the same. -/
def ShaderType.Above (upper lower : ShaderType) : Prop :=
  lower = upper ∨ lower.rank < upper.rank

theorem ShaderType.Above.trans {upper middle lower : ShaderType}
    (above : upper.Above middle) (above' : middle.Above lower) :
    upper.Above lower := by
  rcases above with rfl | smaller
  · exact above'
  · rcases above' with rfl | smaller'
    · exact Or.inr smaller
    · exact Or.inr (Nat.lt_trans smaller' smaller)

/-- The type of an operation is that of the larger operand. -/
theorem ArithmeticOperator.binaryType?_above
    {operator : ArithmeticOperator} {left right result : ShaderType}
    (typed : operator.binaryType? left right = some result) :
    (result = left ∨ result = right) ∧ result.Above left ∧
      result.Above right := by
  unfold binaryType? at typed
  split at typed
  · rename_i same
    cases typed
    exact ⟨Or.inl rfl, Or.inl rfl, Or.inl same.symm⟩
  · split at typed
    · rename_i scalar
      cases typed
      rw [scalar.1]
      exact ⟨Or.inr rfl, Or.inr (ShaderType.rank_scalar_lt scalar.2),
        Or.inl rfl⟩
    · split at typed
      · rename_i scalar
        cases typed
        rw [scalar.1]
        exact ⟨Or.inl rfl, Or.inl rfl,
          Or.inr (ShaderType.rank_scalar_lt scalar.2)⟩
      · split at typed
        · unfold productType? at typed
          split at typed
          · rename_i isColumn
            cases typed
            exact ⟨Or.inr rfl, Or.inr (ShaderType.rank_column isColumn),
              Or.inl rfl⟩
          · split at typed
            · rename_i isColumn
              cases typed
              exact ⟨Or.inl rfl, Or.inl rfl,
                Or.inr (ShaderType.rank_column isColumn)⟩
            · cases typed
        · cases typed

/-- A type is that of the largest operand of a chain. -/
structure Largest (types : List ShaderType) (type : ShaderType) : Prop where
  met : type ∈ types
  above : ∀ other ∈ types, type.Above other

namespace Largest

variable {types rest : List ShaderType} {type next result : ShaderType}

theorem single (type : ShaderType) : Largest [type] type := by
  refine ⟨List.mem_singleton_self type, fun other member => ?_⟩
  exact Or.inl (List.mem_singleton.mp member)

/-- A further operand of a chain leaves the type or replaces it. -/
theorem snoc {operator : ArithmeticOperator} (largest : Largest types type)
    (typed : operator.binaryType? type next = some result) :
    Largest (types ++ [next]) result := by
  obtain ⟨oneOf, aboveType, aboveNext⟩ :=
    ArithmeticOperator.binaryType?_above typed
  constructor
  · rcases oneOf with rfl | rfl
    · exact List.mem_append_left _ largest.met
    · exact List.mem_append_right _ (List.mem_singleton_self _)
  · intro other member
    rcases List.mem_append.mp member with old | new
    · exact aboveType.trans (largest.above other old)
    · rw [List.mem_singleton.mp new]
      exact aboveNext

theorem foldlM {operator : ArithmeticOperator}
    (largest : Largest types type)
    (typed : rest.foldlM operator.binaryType? type = some result) :
    Largest (types ++ rest) result := by
  induction rest generalizing types type with
  | nil =>
      cases typed
      rwa [List.append_nil]
  | cons next rest inductionHypothesis =>
      rw [List.foldlM_cons] at typed
      obtain ⟨middle, first, later⟩ := Option.bind_eq_some_iff.mp typed
      have whole := inductionHypothesis (largest.snoc first) later
      rwa [List.append_assoc] at whole

theorem of_chainType? {operator : ArithmeticOperator}
    (typed : operator.chainType? types = some result) :
    Largest types result := by
  cases types with
  | nil =>
      cases typed
  | cons first rest =>
      exact (single first).foldlM typed

end Largest

/-! ## The inferred type of a chain -/

theorem allKnown?_map_some (types : List ShaderType) :
    allKnown? (types.map some) = some types := by
  induction types with
  | nil =>
      rfl
  | cons type rest inductionHypothesis =>
      simp [allKnown?, inductionHypothesis]

section Widest

variable {types : List ShaderType} {type : ShaderType}

theorem widestVector?_eq_none
    (noVector : ∀ other ∈ types, other.isVector = false) :
    widestVector? types = none := by
  induction types with
  | nil =>
      rfl
  | cons first rest inductionHypothesis =>
      rw [List.forall_mem_cons] at noVector
      simp [widestVector?, inductionHypothesis noVector.2, noVector.1]

/-- A list whose vectors are all of one type. -/
theorem widestVector?_eq_some (isVector : type.isVector = true)
    (met : type ∈ types)
    (only : ∀ other ∈ types, other.isVector = true → other = type) :
    widestVector? types = some type := by
  induction types with
  | nil =>
      cases met
  | cons first rest inductionHypothesis =>
      rw [List.forall_mem_cons] at only
      by_cases inRest : type ∈ rest
      · have later := inductionHypothesis inRest only.2
        have notWider :
            ¬ (first.isVector = true ∧ type.size < first.size) := by
          rintro ⟨firstVector, wider⟩
          rw [only.1 firstVector] at wider
          exact Nat.lt_irrefl _ wider
        simp [widestVector?, later, notWider]
      · have noVector : ∀ other ∈ rest, other.isVector = false := by
          intro other member
          refine Bool.eq_false_iff.mpr fun otherVector => inRest ?_
          rw [← only.2 other member otherVector]
          exact member
        obtain rfl : type = first :=
          (List.mem_cons.mp met).resolve_right inRest
        simp [widestVector?, widestVector?_eq_none noVector, isVector]

end Widest

namespace Largest

variable {types : List ShaderType} {type other : ShaderType}

/-- Only the type itself is as large as the largest one. -/
theorem eq_of_rank_le (largest : Largest types type) (member : other ∈ types)
    (large : type.rank ≤ other.rank) : other = type :=
  (largest.above other member).resolve_right (Nat.not_lt.mpr large)

/-- Inference asks for vectors, for matrices and for the rest in this order,
so that it meets the largest operand first. -/
theorem arithmeticType?_eq (largest : Largest types type) :
    arithmeticType? (types.map some) = some type := by
  rw [arithmeticType?, allKnown?_map_some]
  by_cases isVector : type.isVector = true
  · have only : ∀ other ∈ types, other.isVector = true → other = type :=
      fun other member otherVector => largest.eq_of_rank_le member <|
        ShaderType.rank_le_of_isVector otherVector
    simp [widestVector?_eq_some isVector largest.met only]
  · have noVector : ∀ other ∈ types, other.isVector = false := by
      intro other member
      refine Bool.eq_false_iff.mpr fun otherVector => isVector ?_
      rw [← largest.eq_of_rank_le member <|
        ShaderType.rank_le_of_isVector otherVector]
      exact otherVector
    have onlyMatrix : ∀ other ∈ types, other.isMatrix = true →
        other = type := fun other member otherMatrix =>
      largest.eq_of_rank_le member <|
        ShaderType.rank_le_of_isMatrix (Bool.eq_false_iff.mpr isVector)
          otherMatrix
    have firstMatrix : (types.find? ShaderType.isMatrix <|> types.head?) =
        some type := by
      cases found : types.find? ShaderType.isMatrix with
      | some other =>
          have isMatrix := List.find?_some found
          have member := List.mem_of_find?_eq_some found
          rw [onlyMatrix other member isMatrix]
          rfl
      | none =>
          have noMatrix : ¬ type.isMatrix = true :=
            List.find?_eq_none.mp found type largest.met
          cases types with
          | nil =>
              cases largest.met
          | cons first rest =>
              have same : first = type :=
                largest.eq_of_rank_le List.mem_cons_self (by
                  simp [ShaderType.rank, isVector, noMatrix])
              rw [same]
              rfl
    simpa [widestVector?_eq_none noVector] using firstMatrix

end Largest

/-- Inference agrees with the typing of a chain from left to right. -/
theorem ArithmeticOperator.arithmeticType?_eq {operator : ArithmeticOperator}
    {types : List ShaderType} {type : ShaderType}
    (typed : operator.chainType? types = some type) :
    Shaderwright.arithmeticType? (types.map some) = some type :=
  (Largest.of_chainType? typed).arithmeticType?_eq

end Shaderwright
