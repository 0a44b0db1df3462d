import Shaderwright.Proofs.CanonicalWalk
import Shaderwright.Proofs.Conditions

/-!
Signs of zeros in texts. Positive and negative zero are equal numbers with
different literals. Texts that differ in such literals only are the same text
exactly where all signs agree (`SignedAlike.text_eq_iff`), since a sign shows
at the first character where the texts come apart.
-/

namespace Shaderwright

/-! ## Texts with signs -/

/-- Two texts of one shape, whose zeros have the given signs. In front of
anything else they are read apart exactly by these signs. -/
def SignedAlike (signs signs' : List Bool) (text text' : String) : Prop :=
  signs.length = signs'.length ∧
    ∀ rest rest' : String, text ++ rest = text' ++ rest' ↔
      signs = signs' ∧ rest = rest'

namespace SignedAlike

variable {signs signs' others others' : List Bool}
  {first first' second second' : String}

theorem text_eq_iff (alike : SignedAlike signs signs' first first') :
    first = first' ↔ signs = signs' := by
  simpa using alike.2 "" ""

/-- A text without zeros. -/
theorem plain (text : String) : SignedAlike [] [] text text := by
  refine ⟨rfl, fun rest rest' => ?_⟩
  rw [String.append_right_inj]
  simp

theorem append (left : SignedAlike signs signs' first first')
    (right : SignedAlike others others' second second') :
    SignedAlike (signs ++ others) (signs' ++ others') (first ++ second)
      (first' ++ second') := by
  refine ⟨?_, fun rest rest' => ?_⟩
  · rw [List.length_append, List.length_append, left.1, right.1]
  · have apart : signs ++ others = signs' ++ others' ↔
        signs = signs' ∧ others = others' :=
      ⟨fun same => List.append_inj same left.1, fun same => by
        rw [same.1, same.2]⟩
    rw [String.append_assoc, String.append_assoc, left.2, right.2, apart,
      and_assoc]

theorem plain_append (text : String)
    (alike : SignedAlike signs signs' first first') :
    SignedAlike signs signs' (text ++ first) (text ++ first') :=
  (plain text).append alike

theorem append_plain (text : String)
    (alike : SignedAlike signs signs' first first') :
    SignedAlike signs signs' (first ++ text) (first' ++ text) := by
  have whole := alike.append (plain text)
  rwa [List.append_nil, List.append_nil] at whole

end SignedAlike

/-- Lists of texts that are alike one by one. -/
inductive SignedTexts :
    List Bool → List Bool → List String → List String → Prop
  | nil : SignedTexts [] [] [] []
  | cons {signs signs' others others' : List Bool} {text text' : String}
      {texts texts' : List String}
      (head : SignedAlike signs signs' text text')
      (tail : SignedTexts others others' texts texts') :
      SignedTexts (signs ++ others) (signs' ++ others') (text :: texts)
        (text' :: texts')

namespace SignedTexts

variable {signs signs' : List Bool} {texts texts' : List String}

theorem intercalate (separator : String)
    (alike : SignedTexts signs signs' texts texts') :
    SignedAlike signs signs' (separator.intercalate texts)
      (separator.intercalate texts') := by
  induction alike with
  | nil =>
      exact .plain _
  | cons head tail inductionHypothesis =>
      cases tail with
      | nil =>
          simpa using head
      | cons next rest =>
          rw [String.intercalate_cons_cons, String.intercalate_cons_cons]
          exact (head.append_plain separator).append inductionHypothesis

theorem callText (name : String)
    (alike : SignedTexts signs signs' texts texts') :
    SignedAlike signs signs' (Shaderwright.callText name texts)
      (Shaderwright.callText name texts') :=
  ((alike.intercalate ", ").plain_append (name ++ "(")).append_plain ")"

end SignedTexts

/-! ## Numbers -/

/-- The sign of a number that is zero. -/
def Binary32.zeroSigns (x : Binary32) : List Bool :=
  if x.magnitude = 0 then [x.isNegative] else []

theorem Binary32.eq_zero_of_magnitude {x : Binary32}
    (zero : x.magnitude = 0) : x = ⟨0⟩ ∨ x = ⟨0x80000000⟩ := by
  obtain ⟨bits⟩ := x
  have small := bits.toNat_lt
  simp only [Binary32.magnitude] at zero
  have either : bits.toNat = 0 ∨ bits.toNat = 2 ^ 31 := by omega
  rcases either with positive | negative
  · exact Or.inl (congrArg Binary32.mk (UInt32.toNat_inj.mp positive))
  · exact Or.inr (congrArg Binary32.mk (UInt32.toNat_inj.mp negative))

def zeroLiteral (negative : Bool) : String :=
  if negative then "-0.0" else "0.0"

/-- The literals of both zeros differ at once. -/
theorem signedAlike_zeroLiteral (negative negative' : Bool) :
    SignedAlike [negative] [negative'] (zeroLiteral negative)
      (zeroLiteral negative') := by
  refine ⟨rfl, fun rest rest' => ?_⟩
  have starts : ∀ negative rest, (zeroLiteral negative ++ rest).toList.head? =
      some (if negative then '-' else '0') := by
    intro negative rest
    cases negative <;> simp [zeroLiteral]
  by_cases same : negative = negative'
  · rw [same, String.append_right_inj]
    simp
  · have apart : zeroLiteral negative ++ rest ≠
        zeroLiteral negative' ++ rest' := by
      intro equal
      have heads := starts negative rest
      rw [equal, starts] at heads
      revert heads same
      cases negative <;> cases negative' <;> decide
    simp [same, apart]

theorem numberText_of_zero {x : Binary32} (zero : x.magnitude = 0) :
    resultOf (numberText x) = zeroLiteral x.isNegative := by
  rcases Binary32.eq_zero_of_magnitude zero with rfl | rfl <;>
    decide +kernel

/-- The literals of equal numbers differ in the sign of a zero only. -/
theorem Binary32.signedAlike {x y : Binary32}
    (same : x.canonical = y.canonical) :
    SignedAlike x.zeroSigns y.zeroSigns (resultOf (numberText x))
      (resultOf (numberText y)) := by
  have zero : (⟨0⟩ : Binary32).magnitude = 0 := by decide
  unfold Binary32.canonical at same
  unfold Binary32.zeroSigns
  by_cases zeroX : x.magnitude = 0 <;> by_cases zeroY : y.magnitude = 0
  · rw [if_pos zeroX, if_pos zeroY, numberText_of_zero zeroX,
      numberText_of_zero zeroY]
    exact signedAlike_zeroLiteral _ _
  · rw [if_pos zeroX, if_neg zeroY] at same
    exact absurd (same ▸ zero) zeroY
  · rw [if_neg zeroX, if_pos zeroY] at same
    exact absurd (same ▸ zero) zeroX
  · rw [if_neg zeroX, if_neg zeroY] at same
    rw [if_neg zeroX, if_neg zeroY, same]
    exact .plain _

theorem Binary32.signedTexts {xs ys : List Binary32}
    (same : xs.map canonical = ys.map canonical) :
    SignedTexts (xs.flatMap zeroSigns) (ys.flatMap zeroSigns)
      (xs.map fun x => resultOf (numberText x))
      (ys.map fun y => resultOf (numberText y)) := by
  induction xs generalizing ys with
  | nil =>
      rw [List.map_nil, eq_comm, List.map_eq_nil_iff] at same
      rw [same]
      exact .nil
  | cons x xs inductionHypothesis =>
      cases ys with
      | nil =>
          cases same
      | cons y ys =>
          rw [List.map_cons, List.map_cons, List.cons.injEq] at same
          exact .cons (Binary32.signedAlike same.1)
            (inductionHypothesis same.2)

/-- Finite numbers are written one by one. -/
theorem mapM_numberText {numbers : List Binary32}
    (finite : ∀ number ∈ numbers, number.isFinite = true) :
    numbers.mapM numberText =
      .ok (numbers.map fun number => resultOf (numberText number)) := by
  induction numbers with
  | nil =>
      rfl
  | cons number rest inductionHypothesis =>
      rw [List.forall_mem_cons] at finite
      obtain ⟨text, written⟩ := (numberText_ok_iff number).mpr finite.1
      rw [List.mapM_cons, inductionHypothesis finite.2, List.map_cons,
        written]
      rfl

/-! ## Literals and paddings -/

/-- The signs of the zeros that a visit writes. -/
def Visit.zeroSigns : Visit → List Bool
  | .literal value => value.components.flatMap Binary32.zeroSigns
  | .padding source type pad =>
      (List.replicate (resultOf (conversionPadding source type))
        pad).flatMap Binary32.zeroSigns
  | _ => []

/-- The signs of the zeros that visits write, in the order of the text. -/
def visitZeroSigns (visits : List Visit) : List Bool :=
  visits.flatMap Visit.zeroSigns

section Words

variable {target : Target} {locals : List Parameter}

private theorem literalText_eq_callText {value : Literal}
    (composite : value.type ≠ .scalar ∧ value.type ≠ .boolean)
    {keyword : String}
    (word : target.typeKeyword value.type "literal" = .ok keyword)
    (finite : ∀ number ∈ value.components, number.isFinite = true) :
    resultOf (target.literalText value) =
      callText keyword
        (value.components.map fun number => resultOf (numberText number)) := by
  rw [literalText_of_composite target composite, word,
    mapM_numberText finite]
  rfl

/-- The texts of equal literals differ in signs of zeros only. -/
theorem Literal.signedAlike {value value' : Literal}
    (same : value.canonical = value'.canonical)
    (admissible : (Visit.literal value).Admissible target locals)
    (admissible' : (Visit.literal value').Admissible target locals) :
    SignedAlike (Visit.literal value).zeroSigns
      (Visit.literal value').zeroSigns (resultOf (target.literalText value))
      (resultOf (target.literalText value')) := by
  obtain ⟨types, numbers, booleans⟩ :=
    (Literal.canonical_eq_iff value value').mp same
  by_cases composite : value.type ≠ .scalar ∧ value.type ≠ .boolean
  · obtain ⟨maps, finite⟩ := admissible
    obtain ⟨_, finite'⟩ := admissible'
    have mapped := (maps.resolve_left composite.1).resolve_left composite.2
    obtain ⟨keyword, word⟩ :=
      (target.typeKeyword_ok_iff value.type "literal").mpr mapped
    rw [literalText_eq_callText composite word finite,
      literalText_eq_callText (types ▸ composite) (types ▸ word) finite']
    exact (Binary32.signedTexts numbers).callText keyword
  · by_cases boolean : value.type = .boolean
    · obtain rfl := booleans boolean
      cases value <;> simp [Literal.type] at boolean
      exact .plain _
    · cases value <;> simp [Literal.type] at composite boolean
      cases value' <;> simp [Literal.type] at types
      have alike := Binary32.signedAlike (Literal.scalar.inj same)
      simpa [Visit.zeroSigns, Literal.components, Target.literalText]
        using alike

/-- The paddings of equal conversions differ in signs of zeros only. -/
theorem paddingTexts_signedTexts {source source' : Operand}
    {type : ShaderType} {pad pad' : Binary32}
    (sameSource : source.canonical = source'.canonical)
    (samePad : pad.canonical = pad'.canonical)
    (converts : ∃ found wanted, source.components? = some found ∧
      type.components? = some wanted ∧ found ≤ wanted)
    (admissible : (Visit.padding source type pad).Admissible target locals) :
    SignedTexts (Visit.padding source type pad).zeroSigns
      (Visit.padding source' type pad').zeroSigns
      (resultOf (paddingTexts source type pad))
      (resultOf (paddingTexts source' type pad')) := by
  obtain ⟨found, wanted, counts, wants, fits⟩ := converts
  have counts' : source'.components? = some found := by
    rw [← source'.components?_canonical, ← sameSource,
      source.components?_canonical, counts]
  have padding : conversionPadding source type = .ok (wanted - found) :=
    (conversionPadding_ok_iff ..).mpr ⟨_, _, counts, wants, fits, rfl⟩
  have padding' : conversionPadding source' type = .ok (wanted - found) :=
    (conversionPadding_ok_iff ..).mpr ⟨_, _, counts', wants, fits, rfl⟩
  have finite : ∀ number ∈ List.replicate (wanted - found) pad,
      number.isFinite = true := by
    intro number member
    obtain ⟨some, rfl⟩ := List.mem_replicate.mp member
    exact admissible found wanted counts wants (by omega)
  have finite' : ∀ number ∈ List.replicate (wanted - found) pad',
      number.isFinite = true := by
    intro number member
    obtain ⟨some, rfl⟩ := List.mem_replicate.mp member
    rw [← Binary32.isFinite_canonical, ← samePad,
      Binary32.isFinite_canonical]
    exact finite pad (List.mem_replicate.mpr ⟨some, rfl⟩)
  simp only [paddingTexts, padding, padding', mapM_numberText finite,
    mapM_numberText finite', Visit.zeroSigns, resultOf]
  exact Binary32.signedTexts (by
    rw [List.map_replicate, List.map_replicate, samePad])

end Words

end Shaderwright
