import Shaderwright.Proofs.Conditions
import Shaderwright.Proofs.SourceText
import Shaderwright.Proofs.Typing.Suffixes
import Shaderwright.Tree.Build

/-!
A suffix of a selection that is split in two. The text is the same, but the
type is not: inference takes everything from an opening to a closing bracket
for one index, so that two indices in one suffix count as one. Wherever both
forms have a type, they have different ones
(`selection_splits`).
-/

namespace Shaderwright

/-! ## Ends of suffixes -/

/-- A text is a point with letters that select components. -/
def IsSwizzle (text : String) : Prop :=
  ∃ letters, text.toList = '.' :: letters ∧ letters ≠ [] ∧
    ∀ letter ∈ letters, letter ∈ swizzleLetters

section Suffixes

variable {text first second : String}

theorem IsBracketed.head? (bracketed : IsBracketed text) :
    text.toList.head? = some '[' := by
  obtain ⟨inner, spelled⟩ := bracketed
  simp [spelled]

theorem IsSwizzle.head? (swizzle : IsSwizzle text) :
    text.toList.head? = some '.' := by
  obtain ⟨letters, spelled, _⟩ := swizzle
  simp [spelled]

theorem IsBracketed.getLast? (bracketed : IsBracketed text) :
    text.toList.getLast? = some ']' := by
  obtain ⟨inner, spelled⟩ := bracketed
  rw [spelled, ← List.cons_append, List.getLast?_concat]

/-- A swizzle ends with a letter. -/
theorem IsSwizzle.getLast? (swizzle : IsSwizzle text) :
    ∃ letter ∈ swizzleLetters, text.toList.getLast? = some letter := by
  obtain ⟨letters, spelled, nonempty, known⟩ := swizzle
  refine ⟨letters.getLast nonempty, known _ (List.getLast_mem nonempty), ?_⟩
  rw [spelled, List.getLast?_cons, List.getLast?_eq_some_getLast nonempty]
  rfl

theorem IsBracketed.append (bracketed : IsBracketed first)
    (bracketed' : IsBracketed second) : IsBracketed (first ++ second) := by
  obtain ⟨inner, spelled⟩ := bracketed
  obtain ⟨inner', spelled'⟩ := bracketed'
  refine ⟨inner ++ [']', '['] ++ inner', ?_⟩
  rw [String.toList_append, spelled, spelled']
  simp

/-- Every suffix that gives a type is a swizzle or stands in brackets. -/
theorem isSwizzle_or_isBracketed {base type : ShaderType}
    {array? : Option ShaderType}
    (typed : selectionType? base array? text = some type) :
    IsSwizzle text ∨ IsBracketed text := by
  rcases selectionType?_eq_some_iff.mp typed with
    ⟨letters, spelled, selected⟩ | ⟨bracketed, _⟩
  · unfold swizzleType? at selected
    split at selected
    · rename_i valid
      refine Or.inl ⟨letters, spelled, ?_, ?_⟩ <;> simp_all
    · cases selected
  · exact Or.inr bracketed

/-- No suffix that goes on behind another one is a swizzle with it. -/
theorem not_isSwizzle_append
    (selects : IsSwizzle first ∨ IsBracketed first)
    (selects' : IsSwizzle second ∨ IsBracketed second) :
    ¬ IsSwizzle (first ++ second) := by
  rintro ⟨letters, spelled, _, known⟩
  obtain ⟨start, rest, shape⟩ : ∃ start rest,
      first.toList = start :: rest := by
    rcases selects with swizzle | bracketed
    · exact ⟨'.', List.head?_eq_some_iff.mp swizzle.head?⟩
    · exact ⟨'[', List.head?_eq_some_iff.mp bracketed.head?⟩
  rw [String.toList_append, shape, List.cons_append,
    List.cons.injEq] at spelled
  -- The second suffix starts with a sign that is no letter.
  have isLetter : ∀ sign, second.toList.head? = some sign →
      sign ∈ swizzleLetters := fun sign head => by
    refine known sign ?_
    rw [← spelled.2]
    exact List.mem_append_right _ (List.mem_of_mem_head? head)
  rcases selects' with swizzle | bracketed
  · exact absurd (isLetter _ swizzle.head?) (by decide)
  · exact absurd (isLetter _ bracketed.head?) (by decide)

/-- Two suffixes stand in brackets together exactly if both do. -/
theorem isBracketed_append_iff
    (selects : IsSwizzle first ∨ IsBracketed first)
    (selects' : IsSwizzle second ∨ IsBracketed second) :
    IsBracketed (first ++ second) ↔
      IsBracketed first ∧ IsBracketed second := by
  constructor
  · intro together
    have opened := together.head?
    have closed := together.getLast?
    rw [String.toList_append, List.head?_append] at opened
    rw [String.toList_append, List.getLast?_append] at closed
    constructor
    · refine selects.resolve_left fun swizzle => ?_
      rw [swizzle.head?, Option.some_or] at opened
      exact absurd opened (by decide)
    · refine selects'.resolve_left fun swizzle => ?_
      obtain ⟨letter, isLetter, ends⟩ := swizzle.getLast?
      rw [ends, Option.some_or] at closed
      cases closed
      exact absurd isLetter (by decide)
  · rintro ⟨bracketed, bracketed'⟩
    exact bracketed.append bracketed'

end Suffixes

/-! ## Types of split suffixes -/

/-- An element is smaller than what it is selected from. -/
theorem elementType?_smaller {type element : ShaderType}
    (selected : elementType? type = some element) :
    ∃ found found', type.components? = some found ∧
      element.components? = some found' ∧ found' < found := by
  cases type <;> cases selected <;> exact ⟨_, _, rfl, rfl, by decide⟩

/-- A selection of a suffix that consists of two parts. -/
def Operand.selectOnce (base : Operand) (first second : String) :
    Operation :=
  .select base (first ++ second)

/-- A selection of the first part and another one of the second part. -/
def Operand.selectTwice (base : Operand) (first second : String) :
    Operation :=
  .select (.operation (.select base first)) second

section Selections

variable {base : Operand} {first second : String} {once twice : ShaderType}

/-- Both selections have a type exactly where two indices follow each other.
As one suffix they count as the first of them. -/
theorem Operand.selections_typed_iff :
    (base.selectOnce first second).type? = some once ∧
        (base.selectTwice first second).type? = some twice ↔
      (IsBracketed first ∧ IsBracketed second) ∧
        base.type?.bind (indexedType? · base.arrayType?) = some once ∧
        elementType? once = some twice := by
  have notArray :
      (Operand.operation (.select base first)).arrayType? = none := rfl
  simp only [selectOnce, selectTwice, Operand.type?, Operation.type?_select,
    notArray]
  constructor
  · rintro ⟨typed, typed'⟩
    obtain ⟨middle, selected, selected'⟩ := Option.bind_eq_some_iff.mp typed'
    obtain ⟨type, inferred, selected⟩ := Option.bind_eq_some_iff.mp selected
    rw [inferred, Option.bind_some] at typed ⊢
    have selects := isSwizzle_or_isBracketed selected
    have selects' := isSwizzle_or_isBracketed selected'
    have together := (isSwizzle_or_isBracketed typed).resolve_left
      (not_isSwizzle_append selects selects')
    obtain ⟨bracketed, bracketed'⟩ :=
      (isBracketed_append_iff selects selects').mp together
    rw [together.selectionType?_eq] at typed
    rw [bracketed.selectionType?_eq, typed] at selected
    rw [bracketed'.selectionType?_eq] at selected'
    cases selected
    exact ⟨⟨bracketed, bracketed'⟩, typed, selected'⟩
  · rintro ⟨⟨bracketed, bracketed'⟩, indexed, selected⟩
    simp only [(bracketed.append bracketed').selectionType?_eq,
      bracketed.selectionType?_eq, bracketed'.selectionType?_eq, indexed]
    exact ⟨trivial, selected⟩

/-- Two indices in one suffix give a value that seems larger than it is. -/
theorem Operand.selections_padding
    (typed : (base.selectOnce first second).type? = some once ∧
      (base.selectTwice first second).type? = some twice)
    {target : ShaderType} {fewer : Nat}
    (adds : conversionPadding (base.selectOnce first second) target =
      .ok fewer) :
    ∃ more, conversionPadding (base.selectTwice first second) target =
      .ok more ∧ fewer < more := by
  obtain ⟨_, _, selected⟩ := selections_typed_iff.mp typed
  obtain ⟨found, found', counts, counts', smaller⟩ :=
    elementType?_smaller selected
  obtain ⟨count, wanted, has, wants, fits, rfl⟩ :=
    (conversionPadding_ok_iff ..).mp adds
  rw [Operand.components?, Operand.type?, typed.1, Option.bind_some,
    counts] at has
  cases has
  refine ⟨wanted - found', (conversionPadding_ok_iff ..).mpr
    ⟨found', wanted, ?_, wants, by omega, rfl⟩, by omega⟩
  rw [Operand.components?, Operand.type?, typed.2, Option.bind_some, counts']

end Selections

/-- The text of a selection stands in no parentheses where another selection
goes on behind it. -/
theorem lowerOperation_selectOnce (target : Target) (locals : Locals)
    (position : Position) (base : Operand) (first second : String) :
    lowerOperation target locals position (base.selectOnce first second) =
      lowerOperation target locals position
        (base.selectTwice first second) := by
  have bare : ∀ text, (Operand.operation (.select base first)).parenthesized
      text = text := fun text => rfl
  have inside : ∀ text, Position.value.expression text = text :=
    fun text => rfl
  simp only [Operand.selectOnce, Operand.selectTwice, lowerOperation,
    lowerOperand, bind_assoc, pure_bind, bare, inside, String.append_assoc]

/-- A suffix in one part or in two has the same text. Where both have a type,
which they do for two indices, the types differ, and conversions add less to
the selection in one part. -/
theorem selection_splits (base : Operand) (first second : String) :
    (∀ target locals position,
      lowerOperation target locals position (base.selectOnce first second) =
        lowerOperation target locals position
          (base.selectTwice first second)) ∧
    ∀ once twice : ShaderType,
      ((base.selectOnce first second).type? = some once ∧
          (base.selectTwice first second).type? = some twice ↔
        (IsBracketed first ∧ IsBracketed second) ∧
          base.type?.bind (indexedType? · base.arrayType?) = some once ∧
          elementType? once = some twice) ∧
      ((base.selectOnce first second).type? = some once ∧
          (base.selectTwice first second).type? = some twice →
        once ≠ twice ∧ ∀ target fewer,
          conversionPadding (base.selectOnce first second) target =
              .ok fewer →
            ∃ more, conversionPadding (base.selectTwice first second)
              target = .ok more ∧ fewer < more) := by
  refine ⟨fun target locals position => lowerOperation_selectOnce ..,
    fun once twice => ⟨Operand.selections_typed_iff, fun typed =>
      ⟨?_, fun target fewer => Operand.selections_padding typed⟩⟩⟩
  rintro rfl
  obtain ⟨_, _, selected⟩ := Operand.selections_typed_iff.mp typed
  obtain ⟨found, found', counts, counts', smaller⟩ :=
    elementType?_smaller selected
  rw [counts] at counts'
  cases counts'
  exact Nat.lt_irrefl _ smaller

section Examples

/-- A matrix, of which two indices select a number. -/
def shearParameter : Parameter :=
  ⟨0, "shear", .matrix2, .constant, 0⟩

theorem shearIndices_split :
    (Operand.selectOnce shearParameter "[0]" "[1]").type? = some .vector2 ∧
      (Operand.selectTwice shearParameter "[0]" "[1]").type? =
        some .scalar ∧
      ∃ more,
        conversionPadding (Operand.selectTwice shearParameter "[0]" "[1]")
          .vector4 = .ok more ∧ 2 < more := by
  obtain ⟨_, types⟩ := selection_splits shearParameter "[0]" "[1]"
  obtain ⟨typed_iff, apart⟩ := types .vector2 .scalar
  have bracketed : IsBracketed "[0]" ∧ IsBracketed "[1]" :=
    ⟨⟨['0'], by decide⟩, ⟨['1'], by decide⟩⟩
  have typed := typed_iff.mpr ⟨bracketed, rfl, rfl⟩
  exact ⟨typed.1, typed.2, (apart typed).2 .vector4 2 rfl⟩

/-- A position that is made of one selected number. -/
def shearShader (number : Operation) : Shader :=
  ⟨.vertex, none,
    [.set (.builtIn .output) (Operation.convert number .vector4 ⟨0⟩)]⟩

def shearSource (padding : String) : String :=
  "uniform mat2 shear;\n\nvoid main() \x7b\n" ++
    "  gl_Position = vec4(shear[0][1]" ++ padding ++ ");\n\x7d\n"

/-- One number is selected in both shaders, and one of them adds two numbers
to it, the other one three. -/
theorem shearShader_padsApart :
    ∃ once twice,
      lower .glslEs100 (shearShader
        (Operand.selectOnce shearParameter "[0]" "[1]")) = .ok once ∧
      lower .glslEs100 (shearShader
        (Operand.selectTwice shearParameter "[0]" "[1]")) = .ok twice ∧
      once.source = shearSource ", 0.0, 0.0" ∧
      twice.source = shearSource ", 0.0, 0.0, 0.0" ∧
      (Operand.selectOnce shearParameter "[0]" "[1]").type? ≠
        (Operand.selectTwice shearParameter "[0]" "[1]").type? := by
  obtain ⟨once, lowered, source⟩ :=
    exists_of_source (shearShader
      (Operand.selectOnce shearParameter "[0]" "[1]"))
      (shearSource ", 0.0, 0.0") (by decide +kernel)
  obtain ⟨twice, lowered', source'⟩ :=
    exists_of_source (shearShader
      (Operand.selectTwice shearParameter "[0]" "[1]"))
      (shearSource ", 0.0, 0.0, 0.0") (by decide +kernel)
  exact ⟨once, twice, lowered, lowered', source, source', by decide⟩

end Examples

end Shaderwright
