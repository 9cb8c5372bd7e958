import NodeReclaim.Proofs.Double.Arithmetic

/-! Doubles that are compared: with integers by their amounts, with each other as far as their signs tell.
Those that are no number or infinite are told apart from the finite ones, which arithmetic can be done with. -/
namespace NodeReclaim.Double
open Float.Model (Format UnpackedFloat)
open Float.Model.UnpackedFloat

variable {x y : Float}

theorem cases_double (x : Float) :
    x.toModel.unpack = .notANumber ∨ (∃ s, x.toModel.unpack = .infinity s) ∨ IsFinite x := by
  have word : x.toModel.unpack = unpack Format.binary64 x.toBits.toBitVec := rfl
  unfold IsFinite
  rw [word, unpack_eq]
  rcases ofFields_cases _ _ _ with none | infinite | ⟨m, e, stored⟩
  · exact .inl none
  · exact .inr (.inl ⟨_, infinite⟩)
  · exact .inr (.inr ⟨_, m, e, stored⟩)

theorem compareFloat_nan (h : x.toModel.unpack = .notANumber) (n : Int) : Number.compareFloat n x = none := by
  rw [Number.compareFloat, parts_eq, h]
  rfl

theorem compareFloat_infinity (h : x.toModel.unpack = .infinity s) (n : Int) :
    Number.compareFloat n x = some (if isNegative s then .gt else .lt) := by
  rw [Number.compareFloat, parts_eq, h]
  rfl

theorem compareFloat_zero (x : Float) :
    Number.compareFloat 0 x = UnpackedFloat.compare (.zero .positive) x.toModel.unpack := by
  rcases cases_double x with hx | ⟨s, hx⟩ | finite
  · rw [compareFloat_nan hx, hx]
    rfl
  · rw [compareFloat_infinity hx, hx]
    cases s <;> rfl
  · obtain ⟨s, m, e, _, _, hx⟩ := id finite
    rw [compareFloat_eq 0 finite, amount, hx, amountOf_stored, Int.cast_zero]
    by_cases hm : m = 0
    · rw [stored, dif_pos hm, hm, size, Nat.cast_zero, zero_mul]
      cases s
      · rw [signed, neg_zero, compare_eq_iff_eq.2 rfl]
        rfl
      · rw [signed, compare_eq_iff_eq.2 rfl]
        rfl
    · have pos := size_pos hm e
      rw [stored, dif_neg hm]
      cases s with
      | negative =>
        rw [signed, compare_gt_iff_gt.2 (neg_neg_of_pos pos)]
        rfl
      | positive =>
        rw [signed, compare_lt_iff_lt.2 pos]
        rfl

/-! ### Order -/

theorem compare?_int (x : Float) (n : Int) :
    Number.compare? (.float x) (.int n) = (Number.compareFloat n x).map Ordering.swap := rfl

theorem compare?_finite (h : IsFinite x) (n : Int) :
    Number.compare? (.float x) (.int n) = some (compare (amount x) n) := by
  rw [compare?_int, compareFloat_eq n h, Option.map_some, Std.OrientedOrd.eq_swap.symm]

theorem lt_int_iff (h : IsFinite x) (n : Int) :
    Number.lt (.float x) (.int n) = true ↔ amount x < n := by
  rw [Number.lt, compare?_finite h, beq_iff_eq, Option.some.injEq, compare_lt_iff_lt]

theorem le_int_iff (h : IsFinite x) (n : Int) :
    Number.le (.float x) (.int n) = true ↔ amount x ≤ n := by
  rw [Number.le, compare?_finite h, Option.any_some, bne_iff_ne, compare_le_iff_le]

theorem int_lt_iff (h : IsFinite x) (n : Int) :
    Number.lt (.int n) (.float x) = true ↔ n < amount x := by
  rw [Number.lt, Number.compare?, compareFloat_eq n h, beq_iff_eq, Option.some.injEq, compare_lt_iff_lt]

theorem finite_of_bounds (lo : Number.lt (.float x) (.int a) = false)
    (hi : Number.le (.float x) (.int b) = true) : IsFinite x := by
  rcases cases_double x with hx | ⟨s, hx⟩ | finite
  · rw [Number.le, compare?_int, compareFloat_nan hx] at hi
    cases hi
  · rw [Number.le, compare?_int, compareFloat_infinity hx] at hi
    rw [Number.lt, compare?_int, compareFloat_infinity hx] at lo
    cases s
    · cases lo
    · cases hi
  · exact finite

theorem lt_iff (x y : Float) :
    Number.lt (.float x) (.float y) = true ↔
      UnpackedFloat.compare x.toModel.unpack y.toModel.unpack = some .lt := by
  have unpacked : x < y ↔ UnpackedFloat.compare x.toModel.unpack y.toModel.unpack = some .lt :=
    decide_eq_true_iff.trans beq_iff_eq
  rw [← unpacked, Number.lt, Number.compare?]
  split
  next less => exact iff_of_true rfl less
  next not_less =>
    refine iff_of_false ?_ not_less
    split
    · nofun
    · split <;> nofun

inductive IsNegative : UnpackedFloat → Prop
  | infinity : IsNegative (.infinity .negative)
  | finite (m e pos) : IsNegative (.finite .negative m e pos)

theorem compare_zero_iff (u : UnpackedFloat) :
    UnpackedFloat.compare (.zero .positive) u = some .gt ↔ IsNegative u := by
  constructor
  · intro h
    cases u with
    | notANumber | zero => cases h
    | infinity s =>
      cases s with
      | negative => exact .infinity
      | positive => cases h
    | finite s m e pos =>
      cases s with
      | negative => exact .finite m e pos
      | positive => cases h
  · intro h
    cases h <;> rfl

theorem IsNegative.lt {u v : UnpackedFloat} (hu : IsNegative u) (hv : ¬ IsNegative v)
    (ordered : v ≠ .notANumber) : UnpackedFloat.compare u v = some .lt := by
  cases hu <;> cases v with
  | notANumber => exact absurd rfl ordered
  | zero => rfl
  | infinity s =>
    cases s with
    | negative => exact absurd .infinity hv
    | positive => rfl
  | finite s m e pos =>
    cases s with
    | negative => exact absurd (.finite m e pos) hv
    | positive => rfl

theorem IsNegative.of_lt {u v : UnpackedFloat} (hv : IsNegative v)
    (h : UnpackedFloat.compare u v = some .lt) : IsNegative u := by
  cases u with
  | notANumber => cases h
  | zero s => cases hv <;> cases h
  | infinity s =>
    cases s with
    | negative => exact .infinity
    | positive => cases hv <;> cases h
  | finite s m e pos =>
    cases s with
    | negative => exact .finite m e pos
    | positive => cases hv <;> cases h

theorem lt_zero_iff (x : Float) : Number.lt (.float x) (.int 0) = true ↔ IsNegative x.toModel.unpack := by
  rw [Number.lt, compare?_int, compareFloat_zero, beq_iff_eq, ← compare_zero_iff]
  cases UnpackedFloat.compare (.zero .positive) x.toModel.unpack with
  | none => simp
  | some o => cases o <;> simp [Ordering.swap]

theorem IsFinite.ordered (h : IsFinite x) : x.toModel.unpack ≠ .notANumber := by
  obtain ⟨s, m, e, _, _, hx⟩ := h
  intro none
  rw [hx] at none
  rcases stored_cases s m e with hs | ⟨_, hs⟩ <;> rw [hs] at none <;> cases none

theorem int_lt_int_iff (n m : Int) : Number.lt (.int n) (.int m) = true ↔ n < m := by
  rw [Number.lt, Number.compare?, beq_iff_eq, Option.some.injEq, compare_lt_iff_lt]

theorem int_le_int_iff (n m : Int) : Number.le (.int n) (.int m) = true ↔ n ≤ m := by
  rw [Number.le, Number.compare?, Option.any_some, bne_iff_ne, compare_le_iff_le]

theorem lt_of_negative {c : Number} (hc : c.lt (.int 0) = true) (hy : IsFinite y) (h : 0 ≤ amount y) :
    c.lt (.float y) = true := by
  cases c with
  | int n =>
    have below : (n : ℚ) < 0 := by exact_mod_cast (int_lt_int_iff n 0).1 hc
    exact (int_lt_iff hy n).2 (below.trans_le h)
  | float x =>
    have above : ¬ IsNegative y.toModel.unpack := by
      rw [← lt_zero_iff, lt_int_iff hy, Int.cast_zero]
      exact not_lt.2 h
    exact (lt_iff x y).2 (((lt_zero_iff x).1 hc).lt above hy.ordered)

theorem negative_of_lt {c : Number} (h : c.lt (.float y) = true) (hy : IsFinite y) (below : amount y < 0) :
    c.lt (.int 0) = true := by
  cases c with
  | int n =>
    have less : (n : ℚ) < 0 := ((int_lt_iff hy n).1 h).trans below
    exact (int_lt_int_iff n 0).2 (by exact_mod_cast less)
  | float x =>
    have negative : IsNegative y.toModel.unpack := by
      rw [← lt_zero_iff, lt_int_iff hy, Int.cast_zero]
      exact below
    exact (lt_zero_iff x).2 (negative.of_lt ((lt_iff x y).1 h))

/-- Of two stored magnitudes the lesser has the lesser exponent, or the lesser mantissa with the same one. -/
theorem compare_of_size_lt (h : Stored m e) (h' : Stored m' e') (less : size m e < size m' e') :
    (compare e e').then (compare m m') = .lt := by
  rcases lt_trichotomy e e' with lower | rfl | higher
  · rw [compare_lt_iff_lt.2 lower]
    rfl
  · have smaller : m < m' := by
      rw [← not_le, size_le_size_iff, not_le] at less
      exact less
    rw [compare_eq_iff_eq.2 rfl, compare_lt_iff_lt.2 smaller]
    rfl
  · have full : 2 ^ 52 ≤ m := h.full.resolve_right (by have := h'.le; omega)
    have greater : size m' e' ≤ size m e :=
      (size_lt h').le.trans ((zpow_le_zpow_right₀ one_le_two (by omega)).trans (le_size full e))
    exact absurd less (not_lt.2 greater)

/-- Doubles that are not below zero are in the order of their amounts. -/
theorem lt_of_amount_lt (hx : IsFinite x) (hy : IsFinite y) (nonneg : 0 ≤ amount x) (h : amount x < amount y) :
    Number.lt (.float x) (.float y) = true := by
  have pos : 0 < amount y := nonneg.trans_lt h
  obtain ⟨s, m, e, hm, _, hx⟩ := hx
  obtain ⟨s', m', e', hm', _, hy⟩ := hy
  rw [amount, hx, amountOf_stored] at nonneg h
  rw [amount, hy, amountOf_stored] at h pos
  rw [lt_iff, hx, hy]
  cases s' with
  | negative => exact absurd pos (not_lt.2 (neg_nonpos.2 (size_nonneg m' e')))
  | positive =>
    have nonzero : m' ≠ 0 := by
      rintro rfl
      rw [signed, size, Nat.cast_zero, zero_mul] at pos
      exact lt_irrefl 0 pos
    rw [stored, stored, dif_neg nonzero]
    by_cases zero : m = 0
    · rw [dif_pos zero]
      rfl
    rw [dif_neg zero]
    cases s with
    | negative => rfl
    | positive => exact congrArg some (compare_of_size_lt hm hm' h)

theorem lt_infinity (hx : IsFinite x) (hy : y.toModel.unpack = .infinity .positive) :
    Number.lt (.float x) (.float y) = true := by
  obtain ⟨s, m, e, _, _, hx⟩ := hx
  rw [lt_iff, hx, hy]
  rcases stored_cases s m e with hs | ⟨_, hs⟩ <;> rw [hs] <;> cases s <;> rfl

theorem ordered_of_lt {c : Number} (h : c.lt (.float y) = true) (n : Int) :
    (c.compare? (.int n)).isSome = true := by
  cases c with
  | int m => rfl
  | float x =>
    rcases cases_double x with hx | ⟨s, hx⟩ | finite
    · rw [lt_iff, hx] at h
      cases h
    · rw [compare?_int, compareFloat_infinity hx]
      rfl
    · rw [compare?_finite finite]
      rfl

theorem not_lt_nan (hy : y.toModel.unpack = .notANumber) (c : Number) : c.lt (.float y) = false := by
  rw [Bool.eq_false_iff]
  intro h
  cases c with
  | int n =>
    rw [Number.lt, Number.compare?, compareFloat_nan hy] at h
    cases h
  | float x =>
    have none (u : UnpackedFloat) : UnpackedFloat.compare u .notANumber = none := by cases u <;> rfl
    rw [lt_iff, hy, none] at h
    cases h

theorem AtLeast.not_below_zero (h : AtLeast x 0) :
    Number.lt (.float x) (.int 0) = false ∧ (Number.compare? (.float x) (.int 0)).isSome = true := by
  rcases h with ⟨finite, nonneg⟩ | infinite
  · rw [Bool.eq_false_iff, Ne, lt_int_iff finite, Int.cast_zero, compare?_finite finite]
    exact ⟨not_lt.2 nonneg, rfl⟩
  · rw [Number.lt, compare?_int, compareFloat_infinity infinite]
    exact ⟨rfl, rfl⟩

end NodeReclaim.Double
