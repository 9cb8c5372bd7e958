import NodeReclaim.Proofs.Double.Comparison
import NodeReclaim.Retry.Schedule

/-! Jitter, in doubles. A finite delay that is not below zero stays so wherever a draw moves it, and the draw
in the middle does not move it at all. A delay that is not finite is no number any more after that draw. -/
namespace NodeReclaim.Double
open Float.Model (Format UnpackedFloat)
open Float.Model.UnpackedFloat

variable {x y u : Float}

/-- A delay that a draw between zero and one moves by up to a quarter. -/
def moved (x u : Float) : Float := x + (-(x * 0.25) + (x * 0.25 - -(x * 0.25)) * u)

theorem amount_quarter : IsFinite 0.25 ∧ amount 0.25 = 1 / 4 := by
  obtain ⟨finite, value⟩ := amount_power (x := 0.25) (e := -54) rfl (by decide) (by decide)
  exact ⟨finite, value.trans (by norm_num)⟩

theorem amount_half : IsFinite 0.5 ∧ amount 0.5 = 1 / 2 := by
  obtain ⟨finite, value⟩ := amount_power (x := 0.5) (e := -53) rfl (by decide) (by decide)
  exact ⟨finite, value.trans (by norm_num)⟩

theorem amount_two : IsFinite 2 ∧ amount 2 = 2 := by
  obtain ⟨finite, value⟩ := amount_power (x := 2) (e := -51) rfl (by decide) (by decide)
  exact ⟨finite, value.trans (by norm_num)⟩

/-! ### Finite delays -/

theorem IsDouble.double {k : Int} (h : IsDouble q) (hk : k ≤ 1023) (small : |q| < 2 ^ k) :
    IsDouble (q + q) := by
  obtain ⟨s, m, e, hm, he, rfl⟩ := h
  have magnitude : |signed s (size m e)| = size m e := by
    cases s
    · exact (abs_neg _).trans (abs_of_nonneg (size_nonneg m e))
    · exact abs_of_nonneg (size_nonneg m e)
  have twice : signed s (size m e) + signed s (size m e) = signed s (size m e + size m e) := by
    cases s
    · exact (neg_add _ _).symm
    · rfl
  rw [magnitude] at small
  rw [twice]
  by_cases full : 2 ^ 52 ≤ m
  · have less : e < 971 := by
      by_contra greatest
      have great : 2 ^ k ≤ size m e := (zpow_le_zpow_right₀ one_le_two (by omega)).trans (le_size full e)
      exact absurd small (not_lt.2 great)
    have least := hm.le
    refine ⟨s, m, e + 1, ⟨hm.lt, by omega, .inl full⟩, by omega, ?_⟩
    rw [size, size, zpow_add_one₀ two_ne_zero]
    congr 1
    ring
  · have least : e = -1074 := hm.full.resolve_left full
    refine ⟨s, 2 * m, e, ⟨by omega, hm.le, .inr least⟩, he, ?_⟩
    rw [size, size, Nat.cast_mul, Nat.cast_ofNat]
    congr 1
    ring

theorem rounds_quarter (hx : IsFinite x) : Rounds (amount x / 4) (x * 0.25) := by
  obtain ⟨finite, value⟩ := amount_quarter
  have rounds := rounds_mul hx finite
  rwa [value, mul_one_div] at rounds

theorem two_zpow_quarter (k : Int) : (2 : ℚ) ^ (k + 2) / 4 = 2 ^ k := by
  rw [zpow_add₀ two_ne_zero]
  norm_num

theorem quarter_small (hx : IsFinite x) :
    IsFinite (x * 0.25) ∧ |amount (x * 0.25)| ≤ 2 ^ (1022 : Int) := by
  have limit : IsDouble (2 ^ (1022 : Int)) := isDouble_two_zpow (by decide) (by decide)
  have great : (2 : ℚ) ^ (1024 : Int) / 4 = 2 ^ (1022 : Int) := two_zpow_quarter 1022
  have upper : amount x / 4 ≤ 2 ^ (1022 : Int) := by
    rw [← great]
    exact div_le_div_of_nonneg_right hx.isDouble.lt.le zero_le_four
  have lower : -2 ^ (1022 : Int) ≤ amount x / 4 := by
    rw [← great, ← neg_div]
    exact div_le_div_of_nonneg_right (neg_le.1 hx.isDouble.neg.lt.le) zero_le_four
  obtain ⟨finite, lo, hi⟩ := (rounds_quarter hx).bounded limit.neg limit lower upper
  exact ⟨finite, abs_le.2 ⟨lo, hi⟩⟩

theorem amount_swing (hx : IsFinite x) :
    IsFinite (x * 0.25 - -(x * 0.25)) ∧
      amount (x * 0.25 - -(x * 0.25)) = amount (x * 0.25) + amount (x * 0.25) := by
  obtain ⟨finite, small⟩ := quarter_small hx
  obtain ⟨opposite, value⟩ := amount_neg finite
  have rounds := rounds_sub finite opposite
  rw [value, sub_neg_eq_add] at rounds
  have less : (2 : ℚ) ^ (1022 : Int) < 2 ^ (1023 : Int) := zpow_lt_zpow_right₀ one_lt_two (by decide)
  exact rounds.exact (finite.isDouble.double le_rfl (small.trans_lt less))

theorem moved_nonneg (hx : IsFinite x) (hu : IsFinite u) (nonneg : 0 ≤ amount x) (lo : 0 ≤ amount u)
    (hi : amount u ≤ 1) : AtLeast (moved x u) 0 := by
  -- Rounding is only known to pass no double, so each step is bounded by the doubles of the steps before.
  obtain ⟨quarter, _⟩ := quarter_small hx
  obtain ⟨opposite, value⟩ := amount_neg quarter
  obtain ⟨swing, twice⟩ := amount_swing hx
  have bounds := (rounds_quarter hx).bounded isDouble_zero hx.isDouble (by linarith) (by linarith)
  obtain ⟨_, quarter_nonneg, quarter_le⟩ := bounds
  have swing_nonneg : 0 ≤ amount (x * 0.25 - -(x * 0.25)) := by linarith
  have part := (rounds_mul swing hu).bounded isDouble_zero swing.isDouble
    (mul_nonneg swing_nonneg lo) (mul_le_of_le_one_right swing_nonneg hi)
  obtain ⟨drawn, drawn_nonneg, drawn_le⟩ := part
  have offset := (rounds_add opposite drawn).bounded quarter.isDouble.neg swing.isDouble
    (by linarith) (by linarith)
  obtain ⟨shift, shift_ge, _⟩ := offset
  exact (rounds_add hx shift).below 0 isDouble_zero (by linarith)

/-- The draw in the middle leaves the delay as it is. -/
theorem moved_half (hx : IsFinite x) : IsFinite (moved x 0.5) ∧ amount (moved x 0.5) = amount x := by
  -- Half of two quarters is one of them, whatever it was rounded to; so no step is rounded.
  obtain ⟨quarter, _⟩ := quarter_small hx
  obtain ⟨opposite, value⟩ := amount_neg quarter
  obtain ⟨swing, twice⟩ := amount_swing hx
  obtain ⟨middle, one_half⟩ := amount_half
  have drawn := rounds_mul swing middle
  rw [twice, one_half, mul_one_div, add_self_div_two] at drawn
  obtain ⟨part, same⟩ := drawn.exact quarter.isDouble
  have offset := rounds_add opposite part
  rw [same, value, neg_add_cancel] at offset
  obtain ⟨shift, none⟩ := offset.exact isDouble_zero
  have total := rounds_add hx shift
  rw [none, add_zero] at total
  exact total.exact hx.isDouble

/-! ### What is not finite -/

theorem unpack_pack_nan : unpack Format.binary64 (pack Format.binary64 .notANumber) = .notANumber := rfl

theorem unpack_add (x y : Float) : (x + y).toModel.unpack =
    unpack Format.binary64 (pack Format.binary64 (add Format.binary64 x.toModel.unpack y.toModel.unpack)) := rfl

theorem unpack_sub (x y : Float) : (x - y).toModel.unpack =
    unpack Format.binary64 (pack Format.binary64 (sub Format.binary64 x.toModel.unpack y.toModel.unpack)) := rfl

theorem unpack_mul (x y : Float) : (x * y).toModel.unpack =
    unpack Format.binary64 (pack Format.binary64 (mul Format.binary64 x.toModel.unpack y.toModel.unpack)) := rfl

theorem nan_add (hx : x.toModel.unpack = .notANumber) (y : Float) : (x + y).toModel.unpack = .notANumber := by
  have sum (v : UnpackedFloat) : add Format.binary64 .notANumber v = .notANumber := by cases v <;> rfl
  rw [unpack_add, hx, sum, unpack_pack_nan]

theorem add_nan (x : Float) (hy : y.toModel.unpack = .notANumber) : (x + y).toModel.unpack = .notANumber := by
  have sum (v : UnpackedFloat) : add Format.binary64 v .notANumber = .notANumber := by cases v <;> rfl
  rw [unpack_add, hy, sum, unpack_pack_nan]

theorem infinity_mul (hx : x.toModel.unpack = .infinity s) (hy : IsFinite y) (pos : 0 < amount y) :
    (x * y).toModel.unpack = .infinity s := by
  obtain ⟨s', m, e, _, _, hy⟩ := hy
  rw [amount, hy] at pos
  have product : mul Format.binary64 (.infinity s) (stored s' m e) = .infinity s := by
    rw [amountOf_stored] at pos
    have some : m ≠ 0 := by
      rintro rfl
      rw [size, Nat.cast_zero, zero_mul] at pos
      cases s' <;> simp [signed] at pos
    cases s' with
    | negative => exact absurd pos (not_lt.2 (neg_nonpos.2 (size_nonneg m e)))
    | positive =>
      rw [stored, dif_neg some]
      cases s <;> rfl
  rw [unpack_mul, hx, hy, product, unpack_pack_infinity]

/-- The draw in the middle leaves no number of an infinite delay. -/
theorem moved_half_of_not_finite (hx : ¬ IsFinite x) : (moved x 0.5).toModel.unpack = .notANumber := by
  unfold moved
  rcases cases_double x with none | ⟨s, infinite⟩ | finite
  · exact nan_add none _
  · have quarter : (x * 0.25).toModel.unpack = .infinity s :=
      infinity_mul infinite amount_quarter.1 (by rw [amount_quarter.2]; norm_num)
    have opposite := unpack_neg_infinity quarter
    have swing : (x * 0.25 - -(x * 0.25)).toModel.unpack = .infinity s := by
      rw [unpack_sub, quarter, opposite, ← unpack_pack_infinity s]
      cases s <;> rfl
    have drawn : ((x * 0.25 - -(x * 0.25)) * 0.5).toModel.unpack = .infinity s :=
      infinity_mul swing amount_half.1 (by rw [amount_half.2]; norm_num)
    -- The two ends of the swing are infinite with opposite signs.
    apply add_nan
    rw [unpack_add, opposite, drawn, ← unpack_pack_nan]
    cases s <;> rfl
  · exact absurd finite hx

end NodeReclaim.Double
