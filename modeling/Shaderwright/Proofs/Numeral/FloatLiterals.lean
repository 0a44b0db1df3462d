import Shaderwright.Proofs.Numeral.Decimals
import Shaderwright.Proofs.Numeral.Rounding

/-!
Literals of floating-point numbers. The literal of a finite number denotes a
decimal number whose nearest single-precision number is the one it was written
for (`numberText_exact`).
-/

namespace Shaderwright

open BinaryFormat

-- Powers are those of `Nat` itself, whatever monoids are in scope.
attribute [local instance (high)] instPowNat

namespace Binary32

/-- The magnitude of a finite number. -/
def absolute (x : Binary32) : ℚ :=
  binary32.value x.magnitude

/-- The decimal rounds to the magnitude of the number. -/
def IsNearestTo (x : Binary32) (n places : Nat) : Prop :=
  binary32.IsNearest ((n : ℚ) / (10 ^ places : Nat)) x.magnitude

variable {x : Binary32} {n places : Nat}

theorem ofMagnitude_magnitude (x : Binary32) :
    ofMagnitude x.isNegative x.magnitude = x := by
  have bits := x.bits.toNat_lt
  have same : (if x.isNegative then 2 ^ (31 : Nat) + x.magnitude
      else x.magnitude) = x.bits.toNat := by
    unfold isNegative magnitude
    by_cases negative : 2 ^ (31 : Nat) ≤ x.bits.toNat
    · rw [if_pos (decide_eq_true negative)]
      omega
    · rw [if_neg (by simpa using negative)]
      omega
  rw [ofMagnitude, same, UInt32.ofNat_toNat]

theorem positive_ten_pow (places : Nat) : 0 < 10 ^ places :=
  Nat.pow_pos (by decide)

/-! ## The interval of a number -/

theorem significand_mod_two (pattern : Nat) :
    binary32.significand pattern % 2 = pattern % 2 := by
  have split := binary32.step_mul_add_significand pattern
  have even := mod_two_step_mul_add binary32 (by decide)
    (binary32.step pattern) (binary32.significand pattern)
  rw [split] at even
  exact even.symm

theorem upperEnd_eq (x : Binary32) :
    x.upperEnd =
      2 * (binary32.quanta x.magnitude +
        binary32.quanta (x.magnitude + 1)) := by
  rw [upperEnd, center, quanta_succ]
  omega

theorem step_succ {before : Nat} :
    binary32.step (before + 1) =
      if binary32.significand (before + 1) = 2 ^ binary32.fractionBits ∧
          before + 1 ≠ 2 ^ binary32.fractionBits then
        binary32.step before + 1
      else
        binary32.step before := by
  simp only [step, significand, binary32]
  norm_num
  split <;> split <;> omega

/-- The interval reaches down to the halfway point, except below the least
normal magnitude, where it ends sooner. -/
theorem lowerEnd_eq {before : Nat} (follows : x.magnitude = before + 1) :
    x.lowerEnd =
      2 * (binary32.quanta before + binary32.quanta x.magnitude) +
        if x.magnitude = 2 ^ binary32.fractionBits then 1 else 0 := by
  unfold lowerEnd center
  rw [follows, quanta_succ, step_succ]
  by_cases least : before + 1 = 2 ^ binary32.fractionBits
  case pos =>
    obtain rfl : before = 2 ^ binary32.fractionBits - 1 := by omega
    decide
  case neg =>
    by_cases starts : binary32.significand (before + 1) =
        2 ^ binary32.fractionBits
    case pos =>
      rw [if_pos starts, if_pos ⟨starts, least⟩, if_neg least, Nat.pow_succ]
      omega
    case neg =>
      rw [if_neg starts, if_neg fun both => starts both.1, if_neg least]
      omega

theorem lowerEnd_le_center (x : Binary32) : x.lowerEnd ≤ x.center := by
  unfold lowerEnd
  dsimp only
  split <;> exact Nat.sub_le _ _

theorem center_lt_upperEnd (x : Binary32) : x.center < x.upperEnd := by
  have gap := Nat.two_pow_pos (binary32.step x.magnitude)
  unfold upperEnd
  omega

/-- Both ends of the interval belong to an even number only. -/
theorem roundsTo_iff :
    x.roundsTo n places = true ↔
      x.lowerEnd * 10 ^ places ≤ n * (4 * 2 ^ binary32.scale) ∧
        n * (4 * 2 ^ binary32.scale) ≤ x.upperEnd * 10 ^ places ∧
        (n * (4 * 2 ^ binary32.scale) = x.lowerEnd * 10 ^ places ∨
            n * (4 * 2 ^ binary32.scale) = x.upperEnd * 10 ^ places →
          x.magnitude % 2 = 0) := by
  unfold roundsTo
  rw [significand_mod_two]
  by_cases even : x.magnitude % 2 = 0
  case pos =>
    simp [even]
  case neg =>
    simp only [even, if_false, decide_eq_true_eq]
    generalize n * (4 * 2 ^ binary32.scale) = decimal
    constructor
    · rintro ⟨lower, upper⟩
      refine ⟨Nat.le_of_lt lower, Nat.le_of_lt upper, ?_⟩
      rintro (tie | tie) <;> omega
    · rintro ⟨lower, upper, noTie⟩
      exact ⟨Nat.lt_of_le_of_ne lower fun tie => noTie (Or.inl tie.symm),
        Nat.lt_of_le_of_ne upper fun tie => noTie (Or.inr tie)⟩

/-! ## Decimals that round to a number -/

theorem isNearestTo_iff (finite : x.isFinite = true) :
    x.IsNearestTo n places ↔
      (n * (4 * 2 ^ binary32.scale) ≤ x.upperEnd * 10 ^ places ∧
          (n * (4 * 2 ^ binary32.scale) = x.upperEnd * 10 ^ places →
            x.magnitude % 2 = 0)) ∧
        ∀ before, before + 1 = x.magnitude →
          2 * (binary32.quanta before + binary32.quanta x.magnitude) *
                10 ^ places ≤
              n * (4 * 2 ^ binary32.scale) ∧
            (n * (4 * 2 ^ binary32.scale) =
                2 * (binary32.quanta before + binary32.quanta x.magnitude) *
                  10 ^ places →
              x.magnitude % 2 = 0) := by
  have bounded : x.magnitude < binary32.infinity := of_decide_eq_true finite
  have positive := positive_ten_pow places
  have fourfold : n * (4 * 2 ^ binary32.scale) =
      2 * (2 * (n * 2 ^ binary32.scale)) := by ring
  unfold IsNearestTo
  rw [isNearest_iff, two_mul_div_le_iff positive, two_mul_div_eq_iff positive,
    upperEnd_eq, fourfold, Nat.mul_assoc 2 (_ + _)]
  simp only [bounded, Nat.le_of_lt bounded, true_and, forall_const,
    le_two_mul_div_iff positive, two_mul_div_eq_iff positive, Nat.mul_assoc 2]
  simp only [Nat.mul_le_mul_left_iff, Nat.mul_left_cancel_iff, Nat.zero_lt_two]

/-- A decimal that the program takes for the number is nearest to it. -/
theorem isNearestTo_of_roundsTo (finite : x.isFinite = true)
    (rounds : x.roundsTo n places = true) : x.IsNearestTo n places := by
  obtain ⟨lower, upper, even⟩ := roundsTo_iff.mp rounds
  rw [isNearestTo_iff finite]
  refine ⟨⟨upper, fun tie => even (Or.inr tie)⟩, fun before follows => ?_⟩
  rw [lowerEnd_eq follows.symm, Nat.add_mul] at lower
  refine ⟨by omega, fun tie => even (Or.inl ?_)⟩
  rw [lowerEnd_eq follows.symm, Nat.add_mul]
  omega

/-- Apart from the least normal magnitude, every decimal that is nearest to
the number is taken for it. -/
theorem roundsTo_of_isNearestTo (finite : x.isFinite = true)
    (notLeast : x.magnitude ≠ 2 ^ binary32.fractionBits)
    (nearest : x.IsNearestTo n places) : x.roundsTo n places = true := by
  obtain ⟨⟨upper, upperEven⟩, lower⟩ := (isNearestTo_iff finite).mp nearest
  rw [roundsTo_iff]
  cases follows : x.magnitude with
  | zero =>
      have least : x.lowerEnd = 0 := by
        have centered := x.lowerEnd_le_center
        unfold center at centered
        rw [follows] at centered
        exact Nat.le_zero.mp centered
      rw [least, Nat.zero_mul]
      exact ⟨Nat.zero_le _, upper, fun _ => rfl⟩
  | succ before =>
      obtain ⟨above, lowerEven⟩ := lower before follows.symm
      have ends := lowerEnd_eq follows
      rw [if_neg notLeast, Nat.add_zero] at ends
      rw [ends, ← follows]
      exact ⟨above, upper, fun tie => tie.elim lowerEven upperEven⟩

/-! ## The search -/

/-- Between a decimal that rounds to the number and the number itself, every
decimal rounds to it. -/
theorem roundsTo_between {other : Nat} (rounds : x.roundsTo n places = true)
    (between :
      n ≤ other ∧
          other * (4 * 2 ^ binary32.scale) ≤ x.center * 10 ^ places ∨
        other ≤ n ∧
          x.center * 10 ^ places < other * (4 * 2 ^ binary32.scale)) :
    x.roundsTo other places = true := by
  obtain ⟨lower, upper, even⟩ := roundsTo_iff.mp rounds
  have belowCenter := Nat.mul_le_mul_right (10 ^ places) x.lowerEnd_le_center
  have aboveCenter := Nat.mul_lt_mul_of_pos_right x.center_lt_upperEnd
    (positive_ten_pow places)
  rw [roundsTo_iff]
  rcases between with ⟨le, inside⟩ | ⟨le, inside⟩
  · have product :=
      Nat.mul_le_mul_right (4 * 2 ^ binary32.scale) le
    refine ⟨by omega, by omega, fun tie => even ?_⟩
    omega
  · have product :=
      Nat.mul_le_mul_right (4 * 2 ^ binary32.scale) le
    refine ⟨by omega, by omega, fun tie => even ?_⟩
    omega

theorem roundsTo_of_nearestDecimal?
    (found : x.nearestDecimal? places = some n) :
    x.roundsTo n places = true :=
  List.find?_some (p := fun n => x.roundsTo n places) found

/-- Where the search finds no decimal, none with that many places rounds to
the number. -/
theorem not_roundsTo_of_nearestDecimal?
    (missing : x.nearestDecimal? places = none) (n : Nat) :
    ¬x.roundsTo n places = true := by
  intro rounds
  unfold nearestDecimal? at missing
  dsimp only at missing
  have unit : 0 < 4 * 2 ^ binary32.scale := by decide
  have division := Nat.div_mul_le_self (x.center * 10 ^ places)
    (4 * 2 ^ binary32.scale)
  have next := Nat.lt_mul_of_div_lt (Nat.lt_succ_self
    (x.center * 10 ^ places / (4 * 2 ^ binary32.scale))) unit
  have candidates : ¬x.roundsTo (x.center * 10 ^ places /
        (4 * 2 ^ binary32.scale)) places = true ∧
      ¬x.roundsTo (x.center * 10 ^ places /
        (4 * 2 ^ binary32.scale) + 1) places = true := by
    rw [List.find?_eq_none] at missing
    split at missing
    · exact ⟨missing _ (by simp), missing _ (by simp)⟩
    · exact ⟨missing _ (by simp), missing _ (by simp)⟩
  generalize x.center * 10 ^ places / (4 * 2 ^ binary32.scale) = below at *
  rcases Nat.lt_or_ge below n with above | le
  · exact candidates.2 (roundsTo_between rounds (Or.inr ⟨above, next⟩))
  · exact candidates.1 (roundsTo_between rounds (Or.inl ⟨le, division⟩))

theorem roundsTo_mul_ten_pow (rounds : x.roundsTo n places = true)
    (more : Nat) : x.roundsTo (n * 10 ^ more) (places + more) = true := by
  obtain ⟨lower, upper, even⟩ := roundsTo_iff.mp rounds
  have positive := positive_ten_pow more
  have scaled : n * 10 ^ more * (4 * 2 ^ binary32.scale) =
      n * (4 * 2 ^ binary32.scale) * 10 ^ more := Nat.mul_right_comm _ _ _
  rw [roundsTo_iff, scaled, Nat.pow_add, ← Nat.mul_assoc x.lowerEnd,
    ← Nat.mul_assoc x.upperEnd]
  refine ⟨Nat.mul_le_mul_right _ lower, Nat.mul_le_mul_right _ upper, ?_⟩
  intro tie
  exact even (tie.imp (Nat.eq_of_mul_eq_mul_right positive)
    (Nat.eq_of_mul_eq_mul_right positive))

theorem IsNearestTo.mul_ten_pow (nearest : x.IsNearestTo n places)
    (more : Nat) : x.IsNearestTo (n * 10 ^ more) (places + more) := by
  have same : ((n * 10 ^ more : Nat) : ℚ) / (10 ^ (places + more) : Nat) =
      (n : ℚ) / (10 ^ places : Nat) := by
    have positive : ((10 ^ more : Nat) : ℚ) ≠ 0 :=
      Nat.cast_ne_zero.mpr (positive_ten_pow more).ne'
    rw [Nat.pow_add, Nat.cast_mul, Nat.cast_mul,
      mul_div_mul_right _ _ positive]
  unfold IsNearestTo at nearest ⊢
  rwa [same]

section LeastNormal

variable (least : x.magnitude = 2 ^ binary32.fractionBits)

include least

theorem roundsTo_of_leastNormal (more : Nat) :
    x.roundsTo (11754944 * 10 ^ more) (45 + more) = true := by
  apply roundsTo_mul_ten_pow
  rw [roundsTo, lowerEnd, upperEnd, center, least]
  decide

theorem not_isNearestTo_of_leastNormal (finite : x.isFinite = true)
    (few : places ≤ 44) (n : Nat) : ¬x.IsNearestTo n places := by
  intro nearest
  obtain ⟨more, total⟩ := Nat.exists_eq_add_of_le few
  have lifted := nearest.mul_ten_pow more
  rw [← total, isNearestTo_iff finite] at lifted
  obtain ⟨⟨upper, _⟩, lower⟩ := lifted
  obtain ⟨above, _⟩ := lower (2 ^ binary32.fractionBits - 1)
    (least.symm ▸ by decide)
  rw [upperEnd_eq, least] at upper
  rw [least] at above
  generalize n * 10 ^ more = decimal at *
  have unit : 4 * 2 ^ binary32.scale = 4 * 2 ^ (149 : Nat) := rfl
  have high : 2 * (binary32.quanta (2 ^ binary32.fractionBits) +
      binary32.quanta (2 ^ binary32.fractionBits + 1)) = 33554434 := by
    decide
  have low : 2 * (binary32.quanta (2 ^ binary32.fractionBits - 1) +
      binary32.quanta (2 ^ binary32.fractionBits)) = 33554430 := by decide
  rw [unit, high] at upper
  rw [unit, low] at above
  omega

end LeastNormal

/-- Where the search finds no decimal, none with that many places is nearest
to the number. -/
theorem not_isNearestTo_of_nearestDecimal? (finite : x.isFinite = true)
    (missing : x.nearestDecimal? places = none) (n : Nat) :
    ¬x.IsNearestTo n places := by
  have noneRounds := not_roundsTo_of_nearestDecimal? missing
  by_cases least : x.magnitude = 2 ^ binary32.fractionBits
  case pos =>
    apply not_isNearestTo_of_leastNormal least finite
    by_contra many
    obtain ⟨more, rfl⟩ := Nat.exists_eq_add_of_lt (Nat.lt_of_not_le many)
    apply noneRounds (11754944 * 10 ^ more)
    rw [Nat.add_right_comm]
    exact roundsTo_of_leastNormal least more
  case neg =>
    exact fun nearest =>
      noneRounds n (roundsTo_of_isNearestTo finite least nearest)

/-! ## Texts of magnitudes -/

theorem isNearestTo_of_eq_absolute (finite : x.isFinite = true)
    (same : (n : ℚ) / (10 ^ places : Nat) = x.absolute) :
    x.IsNearestTo n places := by
  have bounded : x.magnitude < binary32.infinity := of_decide_eq_true finite
  rw [IsNearestTo, same]
  exact isNearest_value (Nat.le_of_lt bounded)

/-- A magnitude is whole exactly when it is a whole number of units. -/
theorem absolute_eq_natCast_iff (x : Binary32) :
    x.absolute = n ↔ binary32.quanta x.magnitude = n * 2 ^ binary32.scale := by
  have unit : (0 : ℚ) < 2 ^ binary32.scale := by positivity
  rw [absolute, value, div_eq_iff unit.ne', ← Nat.cast_inj (R := ℚ)]
  push_cast
  rfl

/-- As many places as a quantum has are enough for every magnitude. -/
theorem decimal_of_scale_places (x : Binary32) :
    ((x.center * 10 ^ binary32.scale / (4 * 2 ^ binary32.scale) : Nat) : ℚ) /
        (10 ^ binary32.scale : Nat) =
      x.absolute := by
  have tens : 10 ^ binary32.scale =
      5 ^ binary32.scale * 2 ^ binary32.scale := by
    rw [← Nat.mul_pow]
  have quotient : x.center * 10 ^ binary32.scale /
      (4 * 2 ^ binary32.scale) =
        binary32.quanta x.magnitude * 5 ^ binary32.scale := by
    apply Nat.div_eq_of_eq_mul_left (by decide)
    rw [center, tens]
    ring
  have fives : ((5 ^ binary32.scale : Nat) : ℚ) ≠ 0 :=
    Nat.cast_ne_zero.mpr (by decide)
  rw [quotient, tens, Nat.mul_comm (5 ^ _), Nat.cast_mul, Nat.cast_mul,
    mul_div_mul_right _ _ fives, absolute, value, Nat.cast_pow, Nat.cast_ofNat]

/-- The search ends with a decimal that is nearest to the number, and it passes
over no places at which there is one. -/
theorem shortestFrom_spec (finite : x.isFinite = true) (more places : Nat)
    (total : places + more = binary32.scale) :
    ∃ n width, x.shortestFrom more places = positional n width ∧
      places ≤ width ∧ x.IsNearestTo n width ∧
      ∀ shorter, places ≤ shorter → shorter < width →
        ∀ other, ¬x.IsNearestTo other shorter := by
  induction more generalizing places with
  | zero =>
      obtain rfl : places = binary32.scale := total
      refine ⟨_, _, rfl, Nat.le_refl _,
        isNearestTo_of_eq_absolute finite x.decimal_of_scale_places, ?_⟩
      intro shorter longer few
      omega
  | succ more inductionHypothesis =>
      unfold shortestFrom
      cases found : x.nearestDecimal? places with
      | some n =>
          refine ⟨n, places, rfl, Nat.le_refl _,
            isNearestTo_of_roundsTo finite
              (roundsTo_of_nearestDecimal? found), ?_⟩
          intro shorter longer few
          omega
      | none =>
          obtain ⟨n, width, text, later, nearest, shortest⟩ :=
            inductionHypothesis (places + 1) (by omega)
          refine ⟨n, width, text, by omega, nearest, ?_⟩
          intro shorter longer few
          by_cases first : shorter = places
          case pos =>
            rw [first]
            exact not_isNearestTo_of_nearestDecimal? finite found
          case neg =>
            exact shortest shorter (by omega) few

/-- A whole magnitude is written exactly with one place, and any other one with
the fewest places that are nearest to it. -/
theorem magnitudeText_spec (finite : x.isFinite = true) :
    ∃ n places, 0 < places ∧ x.magnitudeText = positional n places ∧
      x.IsNearestTo n places ∧
      ((∃ whole : Nat, x.absolute = whole) →
        (n : ℚ) / (10 ^ places : Nat) = x.absolute ∧ places = 1) ∧
      ((¬∃ whole : Nat, x.absolute = whole) →
        ∀ shorter, 0 < shorter → shorter < places →
          ∀ other, ¬x.IsNearestTo other shorter) := by
  by_cases whole : binary32.quanta x.magnitude % 2 ^ binary32.scale = 0
  case pos =>
    have division := Nat.div_mul_cancel (Nat.dvd_of_mod_eq_zero whole)
    have absolute := x.absolute_eq_natCast_iff.mpr division.symm
    have written : ((binary32.quanta x.magnitude / 2 ^ binary32.scale * 10 :
        Nat) : ℚ) / (10 ^ (1 : Nat) : Nat) = x.absolute := by
      rw [absolute, Nat.pow_one, Nat.cast_mul,
        mul_div_cancel_right₀ _ (Nat.cast_ne_zero.mpr (by decide))]
    refine ⟨_, 1, Nat.one_pos, if_pos whole,
      isNearestTo_of_eq_absolute finite written, fun _ => ⟨written, rfl⟩, ?_⟩
    exact fun notWhole => absurd ⟨_, absolute⟩ notWhole
  case neg =>
    obtain ⟨n, places, text, positive, nearest, shortest⟩ :=
      shortestFrom_spec finite (binary32.scale - 1) 1 rfl
    refine ⟨n, places, positive, ?_, nearest, ?_, fun _ => shortest⟩
    · rw [← text]
      exact if_neg whole
    · rintro ⟨k, absolute⟩
      rw [absolute_eq_natCast_iff] at absolute
      rw [absolute, Nat.mul_mod_left] at whole
      exact absurd rfl whole

end Binary32

/-! ## Literals -/

/-- The literal says what the number is: its sign is that of the number, and
its decimal, rounded to the nearest number with ties to even, is the number.
Whole numbers are exact with one place, and others have no place too many. -/
structure DecimalLiteral.Denotes (literal : DecimalLiteral)
    (x : Binary32) : Prop where
  isNegative_eq : literal.isNegative = x.isNegative
  isNearest : binary32.IsNearest literal.magnitude x.magnitude
  rounded_eq : literal.rounded = x
  exact_of_whole : (∃ whole : Nat, x.absolute = whole) →
    literal.magnitude = x.absolute ∧ literal.places = 1
  shortest : (¬∃ whole : Nat, x.absolute = whole) →
    ∀ shorter, 0 < shorter → shorter < literal.places →
      ∀ n : Nat,
        ¬binary32.IsNearest ((n : ℚ) / (10 ^ shorter : Nat)) x.magnitude

/-- Every finite number has a literal that denotes it. -/
theorem exists_literal {x : Binary32} (finite : x.isFinite = true) :
    ∃ literal : DecimalLiteral,
      numberText x = .ok literal.text ∧ literal.Denotes x := by
  obtain ⟨n, places, positive, text, nearest, whole, shortest⟩ :=
    Binary32.magnitudeText_spec finite
  refine ⟨.ofPositional x.isNegative n positive, ?_, ?_⟩
  · rw [DecimalLiteral.text_ofPositional, ← text]
    unfold numberText Binary32.literalText?
    rw [if_pos finite]
  · have magnitude_eq :=
      DecimalLiteral.magnitude_ofPositional x.isNegative n positive
    have places_eq :=
      DecimalLiteral.places_ofPositional x.isNegative n positive
    have rounded := binary32.isNearest_nearest n (by decide)
      (Binary32.positive_ten_pow places)
    constructor
    · rfl
    · rw [magnitude_eq]
      exact nearest
    · rw [DecimalLiteral.rounded, DecimalLiteral.digits_ofPositional,
        places_eq, rounded.unique nearest]
      exact x.ofMagnitude_magnitude
    · rw [magnitude_eq, places_eq]
      exact whole
    · rw [places_eq]
      exact shortest

/-- A finite number is written as a decimal literal that denotes it, and no
other finite number is written alike. -/
theorem numberText_exact (x : Binary32) (finite : x.isFinite = true) :
    (∃ literal : DecimalLiteral,
      numberText x = .ok literal.text ∧ literal.Denotes x) ∧
      ∀ y : Binary32, y.isFinite = true →
        numberText y = numberText x → y = x := by
  obtain ⟨literal, written, denotes⟩ := exists_literal finite
  refine ⟨⟨literal, written, denotes⟩, ?_⟩
  intro y otherFinite same
  obtain ⟨other, otherWritten, otherDenotes⟩ := exists_literal otherFinite
  have texts : other.text = literal.text := by
    rw [written, otherWritten] at same
    exact Except.ok.inj same
  have literals := DecimalLiteral.text_injective texts
  rw [← otherDenotes.rounded_eq, literals, denotes.rounded_eq]

/-- The negative number of least magnitude. -/
theorem numberText_exact_leastNegative :
    let x : Binary32 := ⟨0x80000001⟩
    x.isFinite = true ∧
      (∃ literal : DecimalLiteral,
        numberText x = .ok literal.text ∧ literal.Denotes x) ∧
      ∀ y : Binary32, y.isFinite = true →
        numberText y = numberText x → y = x :=
  ⟨by decide, numberText_exact ⟨0x80000001⟩ (by decide)⟩

/-- The least normal number takes no place more than it needs. -/
example : (⟨0x00800000⟩ : Binary32).literalText? =
    some "0.000000000000000000000000000000000000011754944" := by
  decide +kernel

end Shaderwright
