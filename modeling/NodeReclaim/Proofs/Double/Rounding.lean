import Mathlib.Algebra.Order.Field.Power
import Mathlib.Data.Rat.Cast.Order
import Mathlib.Tactic.Linarith
import Mathlib.Tactic.Positivity
import Mathlib.Tactic.NormNum
import Mathlib.Tactic.Ring

/-! Rounding a magnitude to a double. The result is one of the two doubles next to the magnitude, so rounding
never passes a double: what bounds the magnitude bounds the result. Exponents are not limited upward here. -/
namespace NodeReclaim.Double
open Float.Model UnpackedFloat

def size (m : Nat) (e : Int) : ℚ := m * 2 ^ e

/-- How a double stores a magnitude: with a mantissa of 53 bits, or of fewer at the least exponent. -/
structure Stored (m : Nat) (e : Int) : Prop where
  lt : m < 2 ^ 53
  le : -1074 ≤ e
  full : 2 ^ 52 ≤ m ∨ e = -1074

theorem size_lt (h : Stored m e) : size m e < 2 ^ (53 + e) := by
  have hm : (m : ℚ) < 2 ^ (53 : ℤ) := by exact_mod_cast h.lt
  rw [size, zpow_add₀ two_ne_zero]
  exact mul_lt_mul_of_pos_right hm (by positivity)

theorem le_size (h : 2 ^ 52 ≤ m) (e : Int) : 2 ^ (52 + e) ≤ size m e := by
  have hm : (2 : ℚ) ^ (52 : ℤ) ≤ m := by exact_mod_cast h
  rw [size, zpow_add₀ two_ne_zero]
  exact mul_le_mul_of_nonneg_right hm (by positivity)

theorem size_shift (m : Nat) (e : Int) (k : Nat) : size (m * 2 ^ k) e = size m (e + k) := by
  rw [size, size, zpow_add₀ two_ne_zero, zpow_natCast]
  push_cast
  ring

theorem size_le_size_iff {m n : Nat} {e : Int} : size m e ≤ size n e ↔ m ≤ n := by
  have pos : (0 : ℚ) < 2 ^ e := by positivity
  rw [size, size, mul_le_mul_iff_left₀ pos, Nat.cast_le]

/-! ### The integer next to a quotient -/

/-- A mantissa without its last `k` bits, rounded to the nearest. -/
def shortened (m k : Nat) : Nat :=
  (ExtendedMantissa.ofMantissaAndAccuracy m .exact >>> k).roundedMantissa

theorem shiftRight_succ (x : ExtendedMantissa) (k : Nat) : x >>> (k + 1) = (x >>> k).shiftRightOne := rfl

theorem mantissa_shiftRight (m k : Nat) :
    (ExtendedMantissa.ofMantissaAndAccuracy m .exact >>> k).mantissa = m / 2 ^ k := by
  induction k with
  | zero => exact (Nat.div_one m).symm
  | succ k ih => rw [shiftRight_succ, ExtendedMantissa.shiftRightOne, ih, Nat.div_div_eq_div_mul, pow_succ]

/-- The two residual bits tell whether something was lost. -/
theorem residue_shiftRight (m k : Nat) :
    let x := ExtendedMantissa.ofMantissaAndAccuracy m .exact >>> k
    (x.roundBit || x.stickyBit) = (m % 2 ^ k != 0) := by
  induction k with
  | zero => simp [ExtendedMantissa.ofMantissaAndAccuracy, Nat.mod_one, HShiftRight.hShiftRight, Nat.repeat]
  | succ k ih =>
    have split : m % 2 ^ (k + 1) = m % 2 ^ k + 2 ^ k * (m / 2 ^ k % 2) := Nat.mod_pow_succ
    dsimp only at ih ⊢
    rw [shiftRight_succ, ExtendedMantissa.shiftRightOne, mantissa_shiftRight, ih, split]
    rw [Bool.eq_iff_iff]
    simp
    tauto

theorem mantissa_le_rounded (x : ExtendedMantissa) :
    x.mantissa ≤ x.roundedMantissa ∧ x.roundedMantissa ≤ x.mantissa + 1 := by
  obtain ⟨m, r, s⟩ := x
  cases r <;> cases s <;>
    simp only [ExtendedMantissa.roundedMantissa, ExtendedMantissa.accuracy, Accuracy.roundToNearestEven] <;>
    omega

theorem le_shortened (h : c * 2 ^ k ≤ m) : c ≤ shortened m k := by
  have whole : c ≤ m / 2 ^ k := (Nat.le_div_iff_mul_le (Nat.two_pow_pos k)).2 h
  rw [← mantissa_shiftRight] at whole
  exact whole.trans (mantissa_le_rounded _).1

theorem shortened_le (h : m ≤ c * 2 ^ k) : shortened m k ≤ c := by
  have whole : m / 2 ^ k ≤ c := Nat.div_le_of_le_mul (by rwa [Nat.mul_comm])
  have residue := residue_shiftRight m k
  unfold shortened
  generalize hx : ExtendedMantissa.ofMantissaAndAccuracy m .exact >>> k = x at residue
  have cut : x.mantissa = m / 2 ^ k := by rw [← hx, mantissa_shiftRight]
  by_cases lost : m % 2 ^ k = 0
  · -- Nothing was lost, so nothing is rounded.
    have none : x.roundBit = false ∧ x.stickyBit = false := by simpa [lost] using residue
    have same : x.roundedMantissa = x.mantissa := by
      obtain ⟨_, r, s⟩ := x
      obtain ⟨rfl, rfl⟩ := none
      rfl
    rw [same, cut]
    exact whole
  · have more : m / 2 ^ k < c := by
      apply Nat.div_lt_of_lt_mul
      apply lt_of_le_of_ne (by rwa [Nat.mul_comm])
      rintro rfl
      exact lost (Nat.mul_mod_right ..)
    have next := (mantissa_le_rounded x).2
    omega

/-! ### The exponent of the result -/

def unit (m : Nat) (e : Int) : Int := Format.binary64.targetExponent (totalExponent m e)

theorem unit_eq (m : Nat) (e : Int) : unit m e = max ((m.log2 : Int) + e - 52) (-1074) := by
  have spelled : unit m e = max ((m.log2 : Int) + 1 + e - 53) (-1074) := rfl
  rw [spelled]
  omega

theorem unit_of_stored (h : Stored m e) : unit m e ≤ e := by
  have bits : m.log2 ≤ 52 := by
    by_cases hm : m = 0
    · simp [hm]
    · have := (Nat.log2_lt hm).2 h.lt
      omega
  have := h.le
  rw [unit_eq]
  omega

def stored (s : Sign) (m : Nat) (e : Int) : UnpackedFloat :=
  if h : m = 0 then .zero s else .finite s m e (Nat.pos_of_ne_zero h)

theorem stored_cases (s : Sign) (m : Nat) (e : Int) :
    stored s m e = .zero s ∨ ∃ pos, stored s m e = .finite s m e pos := by
  by_cases hm : m = 0
  · exact .inl (dif_pos hm)
  · exact .inr ⟨Nat.pos_of_ne_zero hm, dif_neg hm⟩

theorem stored_ne_infinity (s s' : Sign) (m : Nat) (e : Int) : stored s m e ≠ .infinity s' := by
  intro h
  rcases stored_cases s m e with hs | ⟨_, hs⟩ <;> rw [hs] at h <;> cases h

theorem shiftToTargetExponent_eq (m : Nat) (e : Int) :
    shiftToTargetExponent Format.binary64 m e .exact =
      (ExtendedMantissa.ofMantissaAndAccuracy m .exact >>> (unit m e - e).toNat,
        e + ((unit m e - e).toNat : Int)) := rfl

theorem roundWithAccuracy_eq (h : e ≤ unit m e) (s : Sign) :
    let r := shortened m (unit m e - e).toNat
    let k := (unit r (unit m e) - unit m e).toNat
    roundWithAccuracy Format.binary64 s m e .exact = stored s (r / 2 ^ k) (unit m e + k) := by
  have reached : e + ((unit m e - e).toNat : Int) = unit m e := by omega
  have twice : roundWithAccuracy Format.binary64 s m e .exact =
      let second := shiftToTargetExponent Format.binary64
        (shortened m (unit m e - e).toNat) (e + ((unit m e - e).toNat : Int)) .exact
      stored s second.1.mantissa second.2 := rfl
  rw [twice, reached, shiftToTargetExponent_eq]
  dsimp only
  rw [mantissa_shiftRight]

/-- Where a mantissa is cut it keeps 53 bits, or those down to the least exponent. -/
theorem shortened_bounds (hm : m ≠ 0) (h : e ≤ unit m e) :
    let r := shortened m (unit m e - e).toNat
    r ≤ 2 ^ 53 ∧ (2 ^ 52 ≤ r ∨ unit m e = -1074) := by
  intro r
  have bits : m.log2 ≤ 52 + (unit m e - e).toNat := by
    have := unit_eq m e
    omega
  constructor
  · apply shortened_le
    rw [← pow_add]
    apply Nat.le_of_lt
    calc m < 2 ^ (m.log2 + 1) := Nat.lt_log2_self
      _ ≤ 2 ^ (53 + (unit m e - e).toNat) := Nat.pow_le_pow_right two_pos (by omega)
  · by_cases least : unit m e = -1074
    · exact .inr least
    · left
      apply le_shortened
      have full : m.log2 = 52 + (unit m e - e).toNat := by
        have := unit_eq m e
        omega
      rw [← pow_add, ← full]
      exact Nat.log2_self_le hm

/-- The result of rounding a magnitude: a double that bounds the magnitude bounds the result. -/
def Near (q : ℚ) (s : Sign) (u : UnpackedFloat) : Prop :=
  ∃ m e, Stored m e ∧ u = stored s m e ∧ ∀ n f, Stored n f →
    (size n f ≤ q → size n f ≤ size m e) ∧ (q ≤ size n f → size m e ≤ size n f)

/-- Rounding up may take one more bit, which the next exponent saves. -/
theorem exists_stored (hr : r ≤ 2 ^ 53) (he : -1074 ≤ e) (full : 2 ^ 52 ≤ r ∨ e = -1074) (s : Sign) :
    let k := (unit r e - e).toNat
    ∃ m f, Stored m f ∧ stored s (r / 2 ^ k) (e + k) = stored s m f ∧ size m f = size r e := by
  intro k
  rcases hr.lt_or_eq with small | rfl
  · have kept : k = 0 := by
      have := unit_of_stored ⟨small, he, full⟩
      omega
    refine ⟨r, e, ⟨small, he, full⟩, ?_, rfl⟩
    rw [kept, pow_zero, Nat.div_one, Nat.cast_zero, add_zero]
  · have carried : k = 1 := by
      have := unit_eq (2 ^ 53) e
      rw [Nat.log2_two_pow] at this
      omega
    refine ⟨2 ^ 52, e + 1, ⟨by decide, by omega, .inl le_rfl⟩, ?_, ?_⟩
    · rw [carried]
      rfl
    · have halved : (2 : Nat) ^ 53 = 2 ^ 52 * 2 ^ 1 := by decide
      rw [halved, size_shift]
      rfl

theorem near_roundWithAccuracy (hm : m ≠ 0) (h : e ≤ unit m e) (s : Sign) :
    Near (size m e) s (roundWithAccuracy Format.binary64 s m e .exact) := by
  obtain ⟨atMost, full⟩ := shortened_bounds hm h
  have least : -1074 ≤ unit m e := by
    rw [unit_eq]
    exact le_max_right ..
  obtain ⟨r, f, hstored, hround, hsize⟩ := exists_stored atMost least full s
  refine ⟨r, f, hstored, ?_, ?_⟩
  · rw [roundWithAccuracy_eq h, hround]
  rw [hsize]
  -- Seen from the exponent of the result, a mantissa has lost its last bits.
  set t := unit m e with ht
  have fine (n : Nat) : size n t = size (n * 2 ^ (t - e).toNat) e := by
    rw [size_shift]
    congr 1
    omega
  intro n g hn
  by_cases hg : t ≤ g
  · -- The other double is a multiple of the unit of this one.
    have multiple : size n g = size (n * 2 ^ (g - t).toNat) t := by
      rw [size_shift]
      congr 1
      omega
    rw [multiple, size_le_size_iff, size_le_size_iff, fine, size_le_size_iff, size_le_size_iff]
    exact ⟨le_shortened, shortened_le⟩
  · have normal : t ≠ -1074 := by
      have := hn.le
      omega
    have wide : 2 ^ 52 ≤ shortened m (t - e).toNat := full.resolve_right normal
    have bits : t = m.log2 + e - 52 := by
      have := unit_eq m e
      omega
    have below : size n g < size m e := by
      calc size n g < 2 ^ (53 + g) := size_lt hn
        _ ≤ 2 ^ ((m.log2 : Int) + e) := zpow_le_zpow_right₀ one_le_two (by omega)
        _ ≤ size m e := by
          have leading : ((2 ^ m.log2 : Nat) : ℚ) ≤ m := by exact_mod_cast Nat.log2_self_le hm
          rw [zpow_add₀ two_ne_zero, size]
          exact mul_le_mul_of_nonneg_right (by exact_mod_cast leading) (by positivity)
    constructor
    · intro _
      calc size n g ≤ 2 ^ (53 + g) := (size_lt hn).le
        _ ≤ 2 ^ (52 + t) := zpow_le_zpow_right₀ one_le_two (by omega)
        _ ≤ _ := le_size wide t
    · intro above
      exact absurd above (not_le.2 below)

theorem log2_mul_two_pow (hm : m ≠ 0) (k : Nat) : (m * 2 ^ k).log2 = m.log2 + k := by
  have some : m * 2 ^ k ≠ 0 := Nat.mul_ne_zero hm (Nat.two_pow_pos k).ne'
  apply (Nat.log2_eq_iff some).2
  constructor
  · rw [pow_add]
    exact Nat.mul_le_mul_right _ (Nat.log2_self_le hm)
  · rw [Nat.add_right_comm, pow_add]
    exact Nat.mul_lt_mul_of_pos_right Nat.lt_log2_self (Nat.two_pow_pos k)

theorem near_round (hm : m ≠ 0) (e : Int) (s : Sign) :
    Near (size m e) s (round Format.binary64 s m e) := by
  set k := (e - unit m e).toNat with hk
  have lessened : round Format.binary64 s m e =
      roundWithAccuracy Format.binary64 s (m * 2 ^ k) (e - k) .exact := by
    rw [← Nat.shiftLeft_eq]
    rfl
  have same : size m e = size (m * 2 ^ k) (e - k) := by
    rw [size_shift]
    congr 1
    omega
  rw [lessened, same]
  apply near_roundWithAccuracy (Nat.mul_ne_zero hm (Nat.two_pow_pos k).ne')
  have := unit_eq m e
  rw [unit_eq, log2_mul_two_pow hm]
  omega

end NodeReclaim.Double
