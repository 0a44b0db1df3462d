import Mathlib.Algebra.Order.Field.Basic
import Mathlib.Data.Rat.Cast.Order
import Mathlib.Order.Monotone.Basic
import Mathlib.Tactic.Linarith
import Mathlib.Tactic.Ring
import Shaderwright.BinaryFormat

/-!
Rounding to a binary format. The patterns of a format list its magnitudes in
increasing order, so the pattern nearest to a number is the one between whose
halfway points the number lies (`isNearest_iff`). There is one such pattern,
and `nearest` finds it (`isNearest_nearest`).
-/

namespace Shaderwright.BinaryFormat

-- Powers are those of `Nat` itself, whatever monoids are in scope.
attribute [local instance (high)] instPowNat

/-! ## Patterns and quanta -/

section Quanta

variable (format : BinaryFormat)

theorem step_mul_add_significand (pattern : Nat) :
    format.step pattern * 2 ^ format.fractionBits +
      format.significand pattern = pattern := by
  have division := Nat.div_add_mod' pattern (2 ^ format.fractionBits)
  by_cases subnormal : pattern < 2 ^ format.fractionBits
  case pos =>
    simp [step, significand, subnormal, Nat.div_eq_of_lt subnormal]
  case neg =>
    have normal : 0 < pattern / 2 ^ format.fractionBits :=
      Nat.div_pos (Nat.le_of_not_lt subnormal) (Nat.two_pow_pos _)
    obtain ⟨field, fieldEq⟩ := Nat.exists_eq_add_of_lt normal
    rw [fieldEq, Nat.zero_add, Nat.add_mul, Nat.one_mul] at division
    rw [step, significand, if_neg subnormal, fieldEq, Nat.zero_add,
      Nat.add_sub_cancel]
    omega

theorem significand_lt (pattern : Nat) :
    format.significand pattern < 2 * 2 ^ format.fractionBits := by
  have remainder := Nat.mod_lt pattern (Nat.two_pow_pos format.fractionBits)
  unfold significand
  split <;> omega

theorem step_eq_zero_or_le_significand (pattern : Nat) :
    format.step pattern = 0 ∨
      2 ^ format.fractionBits ≤ format.significand pattern := by
  unfold step significand
  by_cases subnormal : pattern < 2 ^ format.fractionBits
  case pos =>
    exact Or.inl (by simp [Nat.div_eq_of_lt subnormal])
  case neg =>
    rw [if_neg subnormal]
    exact Or.inr (Nat.le_add_right _ _)

/-- Where a step and a significand determine a pattern, the significand may
carry into the next binade. -/
theorem quanta_step_mul_add (step significand : Nat)
    (small : significand ≤ 2 * 2 ^ format.fractionBits)
    (normal : step = 0 ∨ 2 ^ format.fractionBits ≤ significand) :
    format.quanta (step * 2 ^ format.fractionBits + significand) =
      significand * 2 ^ step := by
  have positive := Nat.two_pow_pos format.fractionBits
  unfold quanta BinaryFormat.step BinaryFormat.significand
  generalize 2 ^ format.fractionBits = binade at *
  by_cases subnormal : significand < binade
  case pos =>
    obtain rfl : step = 0 := by omega
    simp [subnormal, Nat.div_eq_of_lt subnormal]
  case neg =>
    obtain ⟨fraction, rfl⟩ :=
      Nat.exists_eq_add_of_le (Nat.le_of_not_lt subnormal)
    have pattern_eq : step * binade + (binade + fraction) =
        fraction + binade * (step + 1) := by
      rw [Nat.mul_comm step, Nat.mul_succ]
      omega
    have notSubnormal : ¬fraction + binade * (step + 1) < binade := by
      rw [Nat.mul_succ]
      omega
    rw [pattern_eq, if_neg notSubnormal, Nat.add_mul_mod_self_left,
      Nat.add_mul_div_left _ _ positive]
    by_cases carries : fraction = binade
    case pos =>
      rw [carries, Nat.mod_self, Nat.div_self positive, Nat.add_zero,
        Nat.add_comm 1, Nat.add_sub_cancel, Nat.pow_succ, Nat.mul_comm _ 2,
        ← Nat.mul_assoc, Nat.mul_comm binade 2, Nat.two_mul]
    case neg =>
      have below : fraction < binade := by omega
      rw [Nat.mod_eq_of_lt below, Nat.div_eq_of_lt below, Nat.zero_add,
        Nat.add_sub_cancel]

theorem le_step {step significand : Nat}
    (normal : step = 0 ∨ 2 ^ format.fractionBits ≤ significand) :
    step ≤ format.step
      (step * 2 ^ format.fractionBits + significand) := by
  rcases normal with rfl | normal
  · exact Nat.zero_le _
  · apply Nat.le_sub_one_of_lt
    rw [Nat.lt_iff_add_one_le,
      Nat.le_div_iff_mul_le (Nat.two_pow_pos _), Nat.succ_mul]
    omega

theorem quanta_succ (pattern : Nat) :
    format.quanta (pattern + 1) =
      format.quanta pattern + 2 ^ format.step pattern := by
  have below := format.significand_lt pattern
  have normal := format.step_eq_zero_or_le_significand pattern
  have carried := format.quanta_step_mul_add (format.step pattern)
    (format.significand pattern + 1) below (by omega)
  rw [← Nat.add_assoc, step_mul_add_significand] at carried
  rw [carried, Nat.add_mul, Nat.one_mul]
  rfl

theorem strictMono_quanta : StrictMono format.quanta := by
  apply strictMono_nat_of_lt_succ
  intro pattern
  rw [quanta_succ]
  exact Nat.lt_add_of_pos_right (Nat.two_pow_pos _)

end Quanta

/-! ## Distances -/

section Distances

variable {number low high : ℚ}

theorem abs_sub_low_le_iff (less : low < high) :
    |number - low| ≤ |number - high| ↔ 2 * number ≤ low + high := by
  constructor
  · intro nearer
    rcases abs_cases (number - low) with ⟨eq, _⟩ | ⟨eq, _⟩ <;>
      rcases abs_cases (number - high) with ⟨eq', _⟩ | ⟨eq', _⟩ <;> linarith
  · intro before
    rw [abs_of_neg (show number - high < 0 by linarith), abs_le]
    constructor <;> linarith

theorem abs_sub_high_le_iff (less : low < high) :
    |number - high| ≤ |number - low| ↔ low + high ≤ 2 * number := by
  constructor
  · intro nearer
    rcases abs_cases (number - low) with ⟨eq, _⟩ | ⟨eq, _⟩ <;>
      rcases abs_cases (number - high) with ⟨eq', _⟩ | ⟨eq', _⟩ <;> linarith
  · intro behind
    rw [abs_of_pos (show 0 < number - low by linarith), abs_le]
    constructor <;> linarith

theorem abs_sub_eq_iff (less : low < high) :
    |number - low| = |number - high| ↔ 2 * number = low + high := by
  rw [le_antisymm_iff, abs_sub_low_le_iff less, abs_sub_high_le_iff less,
    ← le_antisymm_iff]

end Distances

/-! ## The nearest pattern -/

/-- The magnitude of a pattern. Infinity counts as the magnitude that would
follow the largest finite one. -/
def value (format : BinaryFormat) (pattern : Nat) : ℚ :=
  format.quanta pattern / 2 ^ format.scale

/-- No pattern is nearer to the number, and where another is equally near the
pattern is even. -/
structure IsNearest (format : BinaryFormat) (number : ℚ)
    (pattern : Nat) : Prop where
  le_infinity : pattern ≤ format.infinity
  nearer : ∀ other ≤ format.infinity,
    |number - format.value pattern| ≤ |number - format.value other|
  even : ∀ other ≤ format.infinity, other ≠ pattern →
    |number - format.value pattern| = |number - format.value other| →
      pattern % 2 = 0

variable {format : BinaryFormat} {number : ℚ} {pattern other : Nat}

theorem strictMono_value (format : BinaryFormat) :
    StrictMono format.value := by
  intro pattern other less
  have positive : (0 : ℚ) < 2 ^ format.scale := by positivity
  exact (div_lt_div_iff_of_pos_right positive).mpr
    (Nat.cast_lt.mpr (format.strictMono_quanta less))

/-- A pattern is nearest exactly when the number lies between the two halfway
points of the pattern, which belong to it when it is even. -/
theorem isNearest_iff :
    format.IsNearest number pattern ↔
      pattern ≤ format.infinity ∧
        (pattern < format.infinity →
          2 * number ≤ format.value pattern + format.value (pattern + 1) ∧
            (2 * number =
                format.value pattern + format.value (pattern + 1) →
              pattern % 2 = 0)) ∧
        ∀ before, before + 1 = pattern →
          format.value before + format.value pattern ≤ 2 * number ∧
            (2 * number = format.value before + format.value pattern →
              pattern % 2 = 0) := by
  have increasing := format.strictMono_value
  constructor
  · intro nearest
    refine ⟨nearest.le_infinity, fun finite => ?_, ?_⟩
    · have gap := increasing (Nat.lt_succ_self pattern)
      rw [← abs_sub_low_le_iff gap, ← abs_sub_eq_iff gap]
      exact ⟨nearest.nearer _ finite,
        nearest.even _ finite (Nat.succ_ne_self _)⟩
    · rintro before rfl
      have gap := increasing (Nat.lt_succ_self before)
      have bounded := Nat.le_of_succ_le nearest.le_infinity
      rw [← abs_sub_high_le_iff gap, ← abs_sub_eq_iff gap, eq_comm]
      exact ⟨nearest.nearer _ bounded,
        nearest.even _ bounded (Nat.succ_ne_self _).symm⟩
  · rintro ⟨le_infinity, upper, lower⟩
    have separated : ∀ other ≤ format.infinity, other ≠ pattern →
        |number - format.value pattern| ≤ |number - format.value other| ∧
          (|number - format.value pattern| =
              |number - format.value other| →
            pattern % 2 = 0) := by
      intro other bounded different
      rcases Nat.lt_or_gt_of_ne different with below | above
      · obtain ⟨before, rfl⟩ := Nat.exists_eq_add_of_lt below
        obtain ⟨nearer, even⟩ := lower (other + before) rfl
        have far := increasing.monotone (Nat.le_add_right other before)
        rw [abs_sub_high_le_iff (increasing below), eq_comm,
          abs_sub_eq_iff (increasing below)]
        refine ⟨by linarith, fun tie => even ?_⟩
        linarith
      · obtain ⟨nearer, even⟩ := upper (Nat.lt_of_lt_of_le above bounded)
        have far := increasing.monotone (Nat.succ_le_of_lt above)
        rw [abs_sub_low_le_iff (increasing above),
          abs_sub_eq_iff (increasing above)]
        refine ⟨by linarith, fun tie => even ?_⟩
        linarith
    refine ⟨le_infinity, fun other bounded => ?_,
      fun other bounded different => (separated other bounded different).2⟩
    by_cases same : other = pattern
    case pos =>
      rw [same]
    case neg =>
      exact (separated other bounded same).1

/-- A magnitude of the format is nearest to itself. -/
theorem isNearest_value (bounded : pattern ≤ format.infinity) :
    format.IsNearest (format.value pattern) pattern where
  le_infinity := bounded
  nearer other _ := by
    rw [sub_self, abs_zero]
    exact abs_nonneg _
  even other _ different tie := by
    rw [sub_self, abs_zero, eq_comm, abs_eq_zero, sub_eq_zero] at tie
    exact absurd (format.strictMono_value.injective tie).symm different

theorem IsNearest.not_lt (first : format.IsNearest number pattern)
    (second : format.IsNearest number other) : ¬pattern < other := by
  intro less
  have finite := Nat.lt_of_lt_of_le less second.le_infinity
  obtain ⟨distance, rfl⟩ := Nat.exists_eq_add_of_lt less
  obtain ⟨upper, evenFirst⟩ := (isNearest_iff.mp first).2.1 finite
  obtain ⟨lower, evenSecond⟩ :=
    (isNearest_iff.mp second).2.2 (pattern + distance) rfl
  by_cases adjacent : distance = 0
  case pos =>
    subst adjacent
    have tie := le_antisymm upper lower
    have even := evenFirst tie
    have evenNext := evenSecond tie
    omega
  case neg =>
    have low : format.value pattern < format.value (pattern + distance) :=
      format.strictMono_value (by omega)
    have high : format.value (pattern + 1) <
        format.value (pattern + distance + 1) :=
      format.strictMono_value (by omega)
    linarith

/-- A number has one nearest pattern only. -/
theorem IsNearest.unique (first : format.IsNearest number pattern)
    (second : format.IsNearest number other) : pattern = other :=
  Nat.le_antisymm (Nat.le_of_not_lt (second.not_lt first))
    (Nat.le_of_not_lt (first.not_lt second))

/-! ## Quotients -/

section Quotients

variable {numerator denominator : Nat}

theorem two_mul_div_le_iff (positive : 0 < denominator) :
    2 * ((numerator : ℚ) / denominator) ≤
        format.value pattern + format.value other ↔
      2 * (numerator * 2 ^ format.scale) ≤
        (format.quanta pattern + format.quanta other) * denominator := by
  have denominatorPositive : (0 : ℚ) < denominator := Nat.cast_pos.mpr positive
  have unit : (0 : ℚ) < 2 ^ format.scale := by positivity
  rw [value, value, ← add_div, ← mul_div_assoc,
    div_le_div_iff₀ denominatorPositive unit, ← Nat.cast_le (α := ℚ)]
  push_cast
  rw [mul_assoc]

theorem le_two_mul_div_iff (positive : 0 < denominator) :
    format.value pattern + format.value other ≤
        2 * ((numerator : ℚ) / denominator) ↔
      (format.quanta pattern + format.quanta other) * denominator ≤
        2 * (numerator * 2 ^ format.scale) := by
  have denominatorPositive : (0 : ℚ) < denominator := Nat.cast_pos.mpr positive
  have unit : (0 : ℚ) < 2 ^ format.scale := by positivity
  rw [value, value, ← add_div, ← mul_div_assoc,
    div_le_div_iff₀ unit denominatorPositive, ← Nat.cast_le (α := ℚ)]
  push_cast
  rw [mul_assoc]

theorem two_mul_div_eq_iff (positive : 0 < denominator) :
    2 * ((numerator : ℚ) / denominator) =
        format.value pattern + format.value other ↔
      2 * (numerator * 2 ^ format.scale) =
        (format.quanta pattern + format.quanta other) * denominator := by
  rw [le_antisymm_iff, two_mul_div_le_iff positive,
    le_two_mul_div_iff positive, ← le_antisymm_iff]

end Quotients

/-! ## Rounding -/

theorem divideToNearest_spec (numerator : Nat) {denominator : Nat}
    (positive : 0 < denominator) :
    let rounded := divideToNearest numerator denominator
    2 * numerator ≤ (2 * rounded + 1) * denominator ∧
      (2 * numerator = (2 * rounded + 1) * denominator →
        rounded % 2 = 0) ∧
      2 * rounded * denominator ≤ 2 * numerator + denominator ∧
      (2 * rounded * denominator = 2 * numerator + denominator →
        rounded % 2 = 0) := by
  have division := Nat.div_add_mod' numerator denominator
  have remainder := Nat.mod_lt numerator positive
  unfold divideToNearest
  generalize numerator / denominator = quotient at *
  generalize numerator % denominator = left at *
  subst division
  have expand : ∀ rounded : Nat, 2 * rounded * denominator =
      2 * (rounded * denominator) := fun rounded => Nat.mul_assoc _ _ _
  have next : (quotient + 1) * denominator =
      quotient * denominator + denominator := Nat.succ_mul _ _
  dsimp only
  split
  · rw [Nat.add_mul, expand]
    omega
  · split
    · rw [Nat.add_mul, expand, next]
      omega
    · split <;> rw [Nat.add_mul, expand] <;> (try rw [next]) <;> omega

/-- The pattern that rounding finds before it stops at infinity. -/
def unbounded (format : BinaryFormat) (numerator denominator : Nat) : Nat :=
  let scaled := numerator * 2 ^ format.scale
  let step := Nat.log2 (scaled / denominator) - format.fractionBits
  step * 2 ^ format.fractionBits +
    divideToNearest scaled (denominator * 2 ^ step)

theorem nearest_eq (format : BinaryFormat) (numerator denominator : Nat) :
    format.nearest numerator denominator =
      min (format.unbounded numerator denominator) format.infinity :=
  rfl

section Unbounded

variable (format : BinaryFormat) (numerator : Nat) {denominator : Nat}

/-- The step is chosen such that the rounded quotient is a significand, or the
one that carries into the next binade. -/
theorem exists_unbounded (positive : 0 < denominator) :
    ∃ step,
      let scaled := numerator * 2 ^ format.scale
      let rounded := divideToNearest scaled (denominator * 2 ^ step)
      format.unbounded numerator denominator =
          step * 2 ^ format.fractionBits + rounded ∧
        rounded ≤ 2 * 2 ^ format.fractionBits ∧
        (step = 0 ∨
          2 ^ format.fractionBits ≤ rounded ∧
            2 ^ format.fractionBits * (denominator * 2 ^ step) ≤
              scaled) := by
  refine ⟨_, rfl, ?_, ?_⟩
  all_goals
    generalize numerator * 2 ^ format.scale = scaled
    generalize stepEq : Nat.log2 (scaled / denominator) -
      format.fractionBits = step
    have unit : 0 < denominator * 2 ^ step :=
      Nat.mul_pos positive (Nat.two_pow_pos _)
    obtain ⟨upper, _, lower, _⟩ :=
      divideToNearest_spec scaled unit
  · have bounded : scaled <
        2 * 2 ^ format.fractionBits * (denominator * 2 ^ step) := by
      have log := Nat.lt_log2_self (n := scaled / denominator)
      have exponent : Nat.log2 (scaled / denominator) + 1 ≤
          format.fractionBits + 1 + step := by omega
      have power := Nat.lt_of_lt_of_le log
        (Nat.pow_le_pow_right (by decide) exponent)
      rw [Nat.div_lt_iff_lt_mul positive, Nat.pow_add, Nat.pow_succ'] at power
      rwa [Nat.mul_comm denominator, ← Nat.mul_assoc]
    have product : 2 * divideToNearest scaled (denominator * 2 ^ step) *
        (denominator * 2 ^ step) <
          (2 * (2 * 2 ^ format.fractionBits) + 1) *
            (denominator * 2 ^ step) := by
      rw [Nat.add_mul, Nat.mul_assoc 2 (2 * _)]
      omega
    have small := Nat.lt_of_mul_lt_mul_right product
    omega
  · by_cases first : step = 0
    case pos =>
      exact Or.inl first
    case neg =>
      right
      have nonzero : scaled / denominator ≠ 0 := by
        intro zero
        rw [zero] at stepEq
        exact first (by rw [← stepEq]; simp)
      have log := Nat.log2_self_le nonzero
      have exponent : Nat.log2 (scaled / denominator) =
          format.fractionBits + step := by omega
      rw [exponent, Nat.le_div_iff_mul_le positive, Nat.pow_add,
        Nat.mul_assoc, Nat.mul_comm _ denominator] at log
      have product : 2 * 2 ^ format.fractionBits *
          (denominator * 2 ^ step) ≤
            (2 * divideToNearest scaled (denominator * 2 ^ step) + 1) *
              (denominator * 2 ^ step) := by
        rw [Nat.mul_assoc]
        omega
      have large := Nat.le_of_mul_le_mul_right product unit
      exact ⟨by omega, log⟩

theorem mod_two_step_mul_add (format : BinaryFormat)
    (hasFraction : 0 < format.fractionBits) (step significand : Nat) :
    (step * 2 ^ format.fractionBits + significand) % 2 =
      significand % 2 := by
  obtain ⟨others, bits⟩ := Nat.exists_eq_add_of_lt hasFraction
  rw [bits, Nat.pow_succ, ← Nat.mul_assoc, Nat.mul_add_mod_self_right]

/-- No number above the unbounded pattern's upper halfway point is rounded to
it. -/
theorem unbounded_upper (hasFraction : 0 < format.fractionBits)
    (positive : 0 < denominator) :
    let pattern := format.unbounded numerator denominator
    2 * (numerator * 2 ^ format.scale) ≤
        (format.quanta pattern + format.quanta (pattern + 1)) *
          denominator ∧
      (2 * (numerator * 2 ^ format.scale) =
          (format.quanta pattern + format.quanta (pattern + 1)) *
            denominator →
        pattern % 2 = 0) := by
  obtain ⟨step, unboundedEq, small, normal⟩ :=
    exists_unbounded format numerator positive
  have unit : 0 < denominator * 2 ^ step :=
    Nat.mul_pos positive (Nat.two_pow_pos _)
  obtain ⟨upper, even, _, _⟩ :=
    divideToNearest_spec (numerator * 2 ^ format.scale) unit
  generalize numerator * 2 ^ format.scale = scaled at *
  generalize divideToNearest scaled (denominator * 2 ^ step) = rounded at *
  dsimp only
  rw [unboundedEq, mod_two_step_mul_add format hasFraction, quanta_succ,
    format.quanta_step_mul_add _ _ small (normal.imp_right And.left)]
  have gap : 2 ^ step ≤
      2 ^ format.step (step * 2 ^ format.fractionBits + rounded) :=
    Nat.pow_le_pow_right (by decide)
      (format.le_step (normal.imp_right And.left))
  have halfway : (2 * rounded + 1) * (denominator * 2 ^ step) ≤
      (rounded * 2 ^ step + (rounded * 2 ^ step +
        2 ^ format.step (step * 2 ^ format.fractionBits + rounded))) *
          denominator := by
    calc (2 * rounded + 1) * (denominator * 2 ^ step)
        = (rounded * 2 ^ step + (rounded * 2 ^ step + 2 ^ step)) *
            denominator := by ring
      _ ≤ _ := Nat.mul_le_mul_right _ (by omega)
  refine ⟨Nat.le_trans upper halfway, fun tie => even ?_⟩
  omega

theorem unbounded_lower (hasFraction : 0 < format.fractionBits)
    (positive : 0 < denominator) {before : Nat}
    (follows : before + 1 = format.unbounded numerator denominator) :
    (format.quanta before + format.quanta (before + 1)) * denominator ≤
        2 * (numerator * 2 ^ format.scale) ∧
      (2 * (numerator * 2 ^ format.scale) =
          (format.quanta before + format.quanta (before + 1)) *
            denominator →
        (before + 1) % 2 = 0) := by
  obtain ⟨step, unboundedEq, small, normal⟩ :=
    exists_unbounded format numerator positive
  have unit : 0 < denominator * 2 ^ step :=
    Nat.mul_pos positive (Nat.two_pow_pos _)
  obtain ⟨_, _, lower, even⟩ :=
    divideToNearest_spec (numerator * 2 ^ format.scale) unit
  generalize numerator * 2 ^ format.scale = scaled at *
  generalize divideToNearest scaled (denominator * 2 ^ step) = rounded at *
  rw [unboundedEq] at follows
  have quanta_eq := format.quanta_step_mul_add _ _ small
    (normal.imp_right And.left)
  by_cases starts : step ≠ 0 ∧ rounded = 2 ^ format.fractionBits
  case pos =>
    -- The gap below the first significand of a binade is halved, but the
    -- quotient is not below that significand.
    obtain ⟨notFirst, rfl⟩ := starts
    have reached := (normal.resolve_left notFirst).2
    have less := format.strictMono_quanta (Nat.lt_succ_self before)
    rw [Nat.succ_eq_add_one, follows, quanta_eq] at less
    have below : (format.quanta before +
        2 ^ format.fractionBits * 2 ^ step) * denominator <
          2 * (2 ^ format.fractionBits * (denominator * 2 ^ step)) := by
      calc (format.quanta before +
              2 ^ format.fractionBits * 2 ^ step) * denominator
          < (2 ^ format.fractionBits * 2 ^ step +
              2 ^ format.fractionBits * 2 ^ step) * denominator :=
            Nat.mul_lt_mul_of_pos_right (by omega) positive
        _ = _ := by ring
    rw [follows, quanta_eq]
    omega
  case neg =>
    obtain ⟨fraction, rfl⟩ : ∃ fraction, rounded = fraction + 1 := by
      apply Nat.exists_eq_succ_of_ne_zero
      rintro rfl
      have binade := Nat.two_pow_pos format.fractionBits
      rcases normal with rfl | ⟨above, _⟩
      · omega
      · omega
    have before_eq : before =
        step * 2 ^ format.fractionBits + fraction := by omega
    have quanta_before := format.quanta_step_mul_add step fraction
      (by omega) (by omega)
    rw [follows, quanta_eq, mod_two_step_mul_add format hasFraction, before_eq,
      quanta_before]
    have halfway : (fraction * 2 ^ step + (fraction + 1) * 2 ^ step) *
        denominator + denominator * 2 ^ step =
          2 * (fraction + 1) * (denominator * 2 ^ step) := by ring
    exact ⟨by omega, fun tie => even (by omega)⟩

/-- Rounding finds the nearest pattern. -/
theorem isNearest_nearest (hasFraction : 0 < format.fractionBits)
    (positive : 0 < denominator) :
    format.IsNearest ((numerator : ℚ) / denominator)
      (format.nearest numerator denominator) := by
  have upper := unbounded_upper format numerator hasFraction positive
  have lower : ∀ before,
      before + 1 = format.unbounded numerator denominator → _ :=
    fun before => unbounded_lower format numerator hasFraction positive
  rw [nearest_eq]
  generalize format.unbounded numerator denominator = pattern at *
  rw [isNearest_iff]
  by_cases inside : pattern ≤ format.infinity
  case pos =>
    rw [Nat.min_eq_left inside, two_mul_div_le_iff positive,
      two_mul_div_eq_iff positive]
    refine ⟨inside, fun _ => upper, ?_⟩
    rintro before rfl
    rw [le_two_mul_div_iff positive, two_mul_div_eq_iff positive]
    exact lower before rfl
  case neg =>
    have outside := Nat.lt_of_not_le inside
    obtain ⟨last, rfl⟩ := Nat.exists_eq_succ_of_ne_zero
      (Nat.ne_of_gt (Nat.zero_lt_of_lt outside))
    have reached := (le_two_mul_div_iff positive).mpr (lower last rfl).1
    rw [Nat.min_eq_right (Nat.le_of_lt outside)]
    refine ⟨Nat.le_refl _, fun finite => absurd finite (lt_irrefl _), ?_⟩
    intro before follows
    have low : format.value before < format.value last :=
      format.strictMono_value (by omega)
    have high : format.value format.infinity < format.value (last + 1) :=
      format.strictMono_value outside
    exact ⟨by linarith, fun tie => by linarith⟩

end Unbounded

end Shaderwright.BinaryFormat
