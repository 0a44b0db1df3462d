import Shaderwright.Tree.Typing

/-!
Suffixes of selections as type inference takes them. A suffix counts as a
swizzle by its first character and as an index by its first and its last one
(`selectionType?_eq_some_iff`); of what stands between the brackets nothing is
asked.
-/

namespace Shaderwright

/-! ## Index groups -/

/-- A text begins with an opening bracket and ends with a closing one. -/
def IsBracketed (text : String) : Prop :=
  ∃ inner, text.toList = '[' :: (inner ++ [']'])

/-- How many brackets are open behind a text, unless it closes one that was
not opened. -/
def openBrackets? : Nat → List Char → Option Nat
  | depth, [] => some depth
  | depth, '[' :: rest => openBrackets? (depth + 1) rest
  | 0, ']' :: _ => none
  | depth + 1, ']' :: rest => openBrackets? depth rest
  | depth, _ :: rest => openBrackets? depth rest

/-- A text is a single index: its first bracket is closed by its last one. -/
def IsIndexGroup (text : String) : Prop :=
  ∃ inner, text.toList = '[' :: (inner ++ [']']) ∧
    openBrackets? 0 inner = some 0

theorem IsIndexGroup.isBracketed {text : String}
    (group : IsIndexGroup text) : IsBracketed text := by
  obtain ⟨inner, spelled, _⟩ := group
  exact ⟨inner, spelled⟩

/-! ## Selected types -/

/-- What one index selects from a value of a type, which is an array with
elements of type `array?`. -/
def indexedType? (base : ShaderType) (array? : Option ShaderType) :
    Option ShaderType :=
  array? <|> elementType? base

/-- A selection has a type exactly where its suffix is a swizzle of a vector
or begins and ends with brackets. -/
theorem selectionType?_eq_some_iff {base type : ShaderType}
    {array? : Option ShaderType} {suffix : String} :
    selectionType? base array? suffix = some type ↔
      (∃ fields, suffix.toList = '.' :: fields ∧
          swizzleType? base fields = some type) ∨
        IsBracketed suffix ∧ indexedType? base array? = some type := by
  unfold selectionType? IsBracketed indexedType?
  split
  · rename_i fields spelled
    simp [spelled]
  · rename_i inner spelled
    by_cases closed : inner.getLast? = some ']'
    · obtain ⟨start, rfl⟩ := List.getLast?_eq_some_iff.mp closed
      simp [spelled]
    · have unclosed : ∀ start, inner ≠ start ++ [']'] := fun start same =>
        closed (List.getLast?_eq_some_iff.mpr ⟨start, same⟩)
      simp [spelled, closed, unclosed]
  · rename_i noPoint noBracket
    constructor
    · intro impossible
      cases impossible
    · rintro (⟨fields, spelled, _⟩ | ⟨⟨inner, spelled⟩, _⟩)
      · exact absurd spelled (noPoint fields)
      · exact absurd spelled (noBracket _)

theorem IsBracketed.selectionType?_eq {suffix : String}
    (bracketed : IsBracketed suffix) (base : ShaderType)
    (array? : Option ShaderType) :
    selectionType? base array? suffix = indexedType? base array? := by
  obtain ⟨inner, spelled⟩ := bracketed
  simp [selectionType?, indexedType?, spelled]

theorem Operation.type?_select (base : Operand) (suffix : String) :
    (Operation.select base suffix).type? =
      base.type?.bind (selectionType? · base.arrayType? suffix) := by
  rw [Operation.type?]
  cases base.type? <;> rfl

end Shaderwright
