import NodeReclaim.Proofs.Double.Packing
import NodeReclaim.Value.Order

/-! Sums, differences and products of doubles, and integers as doubles. Each is the exact amount, rounded: it
lies between the doubles that the exact amount lies between, and is infinite only past the greatest. -/
namespace NodeReclaim.Double
open Float.Model (Format UnpackedFloat)
open Float.Model.UnpackedFloat

def signed (s : Sign) (q : ℚ) : ℚ :=
  match s with
  | .negative => -q
  | .positive => q

theorem signed_neg (s : Sign) (q : ℚ) : signed (-s) q = -signed s q := by
  cases s
  · exact (neg_neg q).symm
  · rfl

theorem signed_mul (s₁ s₂ : Sign) (p q : ℚ) : signed (s₁ * s₂) (p * q) = signed s₁ p * signed s₂ q := by
  cases s₁ <;> cases s₂
  · exact (neg_mul_neg p q).symm
  · exact (neg_mul p q).symm
  · exact (mul_neg p q).symm
  · rfl

theorem signed_apply (s : Sign) (m : Nat) (e : Int) :
    (s.apply m : ℚ) * 2 ^ e = signed s (size m e) := by
  cases s
  · rw [Sign.apply, Int.cast_neg, Int.cast_natCast, neg_mul]
    rfl
  · rw [Sign.apply, Int.cast_natCast]
    rfl

theorem size_nonneg (m : Nat) (e : Int) : 0 ≤ size m e := by
  unfold size
  positivity

theorem size_pos (h : m ≠ 0) (e : Int) : 0 < size m e := by
  have pos : 0 < (m : ℚ) := by exact_mod_cast Nat.pos_of_ne_zero h
  unfold size
  positivity

/-! ### Amounts -/

/-- The amount of what a word unpacks to, zero where it has none. -/
def amountOf : UnpackedFloat → ℚ
  | .finite s m e _ => signed s (size m e)
  | _ => 0

def amount (x : Float) : ℚ := amountOf x.toModel.unpack

theorem amountOf_stored (s : Sign) (m : Nat) (e : Int) :
    amountOf (stored s m e) = signed s (size m e) := by
  by_cases hm : m = 0
  · subst hm
    rw [stored, dif_pos rfl, size, Nat.cast_zero, zero_mul]
    cases s
    · exact neg_zero.symm
    · rfl
  · rw [stored, dif_neg hm]
    rfl

theorem amountOf_zero (s : Sign) : amountOf (.zero s) = 0 := rfl

variable {x y : Float}

def IsFinite (x : Float) : Prop :=
  ∃ s m e, Stored m e ∧ e ≤ 971 ∧ x.toModel.unpack = stored s m e

def IsDouble (q : ℚ) : Prop := ∃ s m e, Stored m e ∧ e ≤ 971 ∧ q = signed s (size m e)

theorem IsFinite.isDouble (h : IsFinite x) : IsDouble (amount x) := by
  obtain ⟨s, m, e, hm, he, hx⟩ := h
  refine ⟨s, m, e, hm, he, ?_⟩
  rw [amount, hx, amountOf_stored]

theorem isDouble_zero : IsDouble 0 := by
  refine ⟨.positive, 0, -1074, ⟨by decide, le_rfl, .inr rfl⟩, by decide, ?_⟩
  rw [signed, size, Nat.cast_zero, zero_mul]

theorem IsDouble.neg (h : IsDouble q) : IsDouble (-q) := by
  obtain ⟨s, m, e, hm, he, rfl⟩ := h
  exact ⟨-s, m, e, hm, he, (signed_neg s _).symm⟩

def AtLeast (x : Float) (q : ℚ) : Prop :=
  (IsFinite x ∧ q ≤ amount x) ∨ x.toModel.unpack = .infinity .positive

def AtMost (x : Float) (q : ℚ) : Prop :=
  (IsFinite x ∧ amount x ≤ q) ∨ x.toModel.unpack = .infinity .negative

theorem AtLeast.not_negative (h : AtLeast x p) : x.toModel.unpack ≠ .infinity .negative := by
  intro opposite
  rcases h with ⟨⟨s, m, e, _, _, hx⟩, _⟩ | hx
  · exact stored_ne_infinity s .negative m e (hx.symm.trans opposite)
  · cases hx.symm.trans opposite

theorem AtLeast.bounded (h : AtLeast x p) (h' : AtMost x q) : IsFinite x ∧ p ≤ amount x ∧ amount x ≤ q := by
  rcases h' with ⟨hx, hq⟩ | hx
  · rcases h with ⟨_, hp⟩ | infinite
    · exact ⟨hx, hp, hq⟩
    · obtain ⟨s, m, e, _, _, hx⟩ := hx
      exact absurd (hx.symm.trans infinite) (stored_ne_infinity s .positive m e)
  · exact absurd hx h.not_negative

/-- A double that an amount is rounded to: no double lies between the two. -/
structure Rounds (q : ℚ) (x : Float) : Prop where
  below : ∀ d, IsDouble d → d ≤ q → AtLeast x d
  above : ∀ d, IsDouble d → q ≤ d → AtMost x d

theorem Rounds.bounded (h : Rounds q x) (hp : IsDouble p) (hr : IsDouble r) (hpq : p ≤ q) (hqr : q ≤ r) :
    IsFinite x ∧ p ≤ amount x ∧ amount x ≤ r := (h.below p hp hpq).bounded (h.above r hr hqr)

/-- What a double can tell need not be rounded. -/
theorem Rounds.exact (h : Rounds q x) (hq : IsDouble q) : IsFinite x ∧ amount x = q := by
  obtain ⟨hx, lo, hi⟩ := h.bounded hq hq le_rfl le_rfl
  exact ⟨hx, le_antisymm hi lo⟩

/-! ### From a rounded magnitude to a double -/

theorem IsDouble.lt (h : IsDouble d) : d < 2 ^ (1024 : Int) := by
  obtain ⟨s, m, e, hm, he, rfl⟩ := h
  have small : size m e < 2 ^ (1024 : Int) :=
    (size_lt hm).trans_le (zpow_le_zpow_right₀ one_le_two (by omega))
  cases s
  · exact (neg_nonpos.2 (size_nonneg m e)).trans_lt (by positivity)
  · exact small

/-- A magnitude and its rounding are bounded by the same doubles, those below zero included. -/
theorem bounds_of_near (hq : 0 ≤ q)
    (near : ∀ n f, Stored n f →
      (size n f ≤ q → size n f ≤ size m e) ∧ (q ≤ size n f → size m e ≤ size n f))
    (hd : IsDouble d) : (d ≤ q → d ≤ size m e) ∧ (q ≤ d → size m e ≤ d) := by
  obtain ⟨s, n, f, hn, _, rfl⟩ := hd
  obtain ⟨lower, upper⟩ := near n f hn
  cases s with
  | positive => exact ⟨lower, upper⟩
  | negative =>
    have nonneg := size_nonneg n f
    have result := size_nonneg m e
    rw [signed]
    constructor
    · intro _
      linarith
    · intro least
      have := upper (by linarith)
      linarith

theorem rounds_pack (hq : 0 ≤ q) (h : Near q s u) : Rounds (signed s q) (.ofModel (.pack u)) := by
  obtain ⟨m, e, hm, rfl, near⟩ := h
  have unpacked : (Float.ofModel (.pack (stored s m e))).toModel.unpack =
      if e ≤ 971 then stored s m e else .infinity s := unpack_pack hm s
  generalize Float.ofModel (.pack (stored s m e)) = x at unpacked
  by_cases he : e ≤ 971
  · rw [if_pos he] at unpacked
    have finite : IsFinite x := ⟨s, m, e, hm, he, unpacked⟩
    have value : amount x = signed s (size m e) := by rw [amount, unpacked, amountOf_stored]
    cases s with
    | positive =>
      constructor
      · intro d hd below
        exact .inl ⟨finite, value ▸ (bounds_of_near hq near hd).1 below⟩
      · intro d hd above
        exact .inl ⟨finite, value ▸ (bounds_of_near hq near hd).2 above⟩
    | negative =>
      constructor
      · intro d hd below
        have opposite := (bounds_of_near hq near hd.neg).2 (le_neg_of_le_neg below)
        exact .inl ⟨finite, value ▸ le_neg_of_le_neg opposite⟩
      · intro d hd above
        have opposite := (bounds_of_near hq near hd.neg).1 (neg_le_of_neg_le above)
        exact .inl ⟨finite, value ▸ neg_le_of_neg_le opposite⟩
  · rw [if_neg he] at unpacked
    have great : (2 : ℚ) ^ (1024 : Int) ≤ size m e := by
      have full : 2 ^ 52 ≤ m := hm.full.resolve_right (by omega)
      exact (zpow_le_zpow_right₀ one_le_two (by omega)).trans (le_size full e)
    have past {d : ℚ} (hd : IsDouble d) (hqd : q ≤ d) : False := by
      have := (bounds_of_near hq near hd).2 hqd
      have := hd.lt
      linarith
    cases s with
    | positive => exact ⟨fun d hd _ => .inr unpacked, fun d hd above => (past hd above).elim⟩
    | negative =>
      constructor
      · intro d hd below
        exact (past hd.neg (le_neg_of_le_neg below)).elim
      · exact fun d hd _ => .inr unpacked

theorem near_stored (h : Stored m e) (s : Sign) : Near (size m e) s (stored s m e) :=
  ⟨m, e, h, rfl, fun _ _ _ => ⟨id, id⟩⟩

theorem rounds_stored (h : Stored m e) (s : Sign) :
    Rounds (signed s (size m e)) (.ofModel (.pack (stored s m e))) :=
  rounds_pack (size_nonneg m e) (near_stored h s)

theorem rounds_zero (s : Sign) : Rounds 0 (.ofModel (.pack (.zero s))) := by
  have rounds := rounds_stored ⟨by decide, le_rfl, .inr rfl⟩ s (m := 0) (e := -1074)
  rw [← amountOf_stored] at rounds
  exact rounds

theorem rounds_normalize (n e : Int) (zero : Sign) :
    Rounds (n * 2 ^ e) (.ofModel (.pack (UnpackedFloat.normalize Format.binary64 n e zero))) := by
  unfold UnpackedFloat.normalize
  split
  next negative =>
    have hn : n < 0 := Int.compare_eq_lt.1 negative
    have rounds := rounds_pack (size_nonneg _ _) (near_round (m := (-n).toNat) (by omega) e .negative)
    have value : signed .negative (size (-n).toNat e) = n * 2 ^ e := by
      have magnitude : (((-n).toNat : Int) : ℚ) = -n := by
        rw [Int.toNat_of_nonneg (by omega), Int.cast_neg]
      rw [signed, size, ← Int.cast_natCast, magnitude, neg_mul, neg_neg]
    rwa [value] at rounds
  next none =>
    have hn : n = 0 := Int.compare_eq_eq.1 none
    rw [hn, Int.cast_zero, zero_mul]
    exact rounds_zero zero
  next positive =>
    have hn : 0 < n := Int.compare_eq_gt.1 positive
    have rounds := rounds_pack (size_nonneg _ _) (near_round (m := n.toNat) (by omega) e .positive)
    have value : signed .positive (size n.toNat e) = n * 2 ^ e := by
      rw [signed, size, ← Int.cast_natCast, Int.toNat_of_nonneg hn.le]
    rwa [value] at rounds

/-! ### The operations -/

theorem unpack_neg (hx : x.toModel.unpack = stored s m e) (hm : Stored m e) (he : e ≤ 971) :
    (-x).toModel.unpack = stored (-s) m e := by
  have negated : (-x).toModel.unpack =
      unpack Format.binary64 (pack Format.binary64 x.toModel.unpack.neg) := rfl
  have opposite : (stored s m e).neg = stored (-s) m e := by
    by_cases hz : m = 0
    · rw [stored, stored, dif_pos hz, dif_pos hz]
      rfl
    · rw [stored, stored, dif_neg hz, dif_neg hz]
      rfl
  rw [negated, hx, opposite, unpack_pack hm, if_pos he]

theorem amount_neg (h : IsFinite x) : IsFinite (-x) ∧ amount (-x) = -amount x := by
  obtain ⟨s, m, e, hm, he, hx⟩ := h
  have unpacked := unpack_neg hx hm he
  refine ⟨⟨-s, m, e, hm, he, unpacked⟩, ?_⟩
  rw [amount, amount, unpacked, hx, amountOf_stored, amountOf_stored, signed_neg]

theorem decreaseExponent_value (s : Sign) (m : Nat) (h : f ≤ e) :
    (s.apply (decreaseExponent m e f).1 : ℚ) * 2 ^ f = signed s (size m e) := by
  have lessened : (decreaseExponent m e f).1 = m * 2 ^ (e - f).toNat := Nat.shiftLeft_eq ..
  have exponent : f + ((e - f).toNat : Int) = e := by omega
  rw [signed_apply, lessened, size_shift, exponent]

theorem rounds_add (hx : IsFinite x) (hy : IsFinite y) : Rounds (amount x + amount y) (x + y) := by
  obtain ⟨s₁, m₁, e₁, h₁, _, hx⟩ := hx
  obtain ⟨s₂, m₂, e₂, h₂, _, hy⟩ := hy
  have sum : x + y = .ofModel (.pack (add Format.binary64 (stored s₁ m₁ e₁) (stored s₂ m₂ e₂))) := by
    rw [← hx, ← hy]
    rfl
  rw [sum, amount, amount, hx, hy]
  -- Next to a zero the other operand is kept as it is stored; only two mantissas are aligned and added.
  by_cases z₁ : m₁ = 0
  · have left : stored s₁ m₁ e₁ = .zero s₁ := dif_pos z₁
    by_cases z₂ : m₂ = 0
    · have right : stored s₂ m₂ e₂ = .zero s₂ := dif_pos z₂
      obtain ⟨s, zeros⟩ : ∃ s, add Format.binary64 (.zero s₁) (.zero s₂) = .zero s := by
        cases s₁ <;> cases s₂ <;> exact ⟨_, rfl⟩
      rw [left, right, zeros, amountOf_zero, amountOf_zero, add_zero]
      exact rounds_zero s
    · have right : add Format.binary64 (.zero s₁) (stored s₂ m₂ e₂) = stored s₂ m₂ e₂ := by
        rw [stored, dif_neg z₂]
        rfl
      rw [left, right, amountOf_stored, amountOf_zero, zero_add]
      exact rounds_stored h₂ s₂
  · by_cases z₂ : m₂ = 0
    · have right : stored s₂ m₂ e₂ = .zero s₂ := dif_pos z₂
      have left : add Format.binary64 (stored s₁ m₁ e₁) (.zero s₂) = stored s₁ m₁ e₁ := by
        rw [stored, dif_neg z₁]
        rfl
      rw [right, left, amountOf_stored, amountOf_zero, add_zero]
      exact rounds_stored h₁ s₁
    · have both : add Format.binary64 (stored s₁ m₁ e₁) (stored s₂ m₂ e₂) =
          UnpackedFloat.normalize Format.binary64
            (s₁.apply (decreaseExponent m₁ e₁ (min e₁ e₂)).1 +
              s₂.apply (decreaseExponent m₂ e₂ (min e₁ e₂)).1) (min e₁ e₂) .positive := by
        rw [stored, stored, dif_neg z₁, dif_neg z₂]
        rfl
      rw [both, amountOf_stored, amountOf_stored,
        ← decreaseExponent_value s₁ m₁ (min_le_left e₁ e₂),
        ← decreaseExponent_value s₂ m₂ (min_le_right e₁ e₂), ← add_mul, ← Int.cast_add]
      exact rounds_normalize ..

theorem sub_eq (hy : IsFinite y) (x : Float) : x - y = x + -y := by
  obtain ⟨s, m, e, hm, he, hy⟩ := hy
  have difference : x - y = .ofModel (.pack (sub Format.binary64 x.toModel.unpack (stored s m e))) := by
    rw [← hy]
    rfl
  have sum : x + -y = .ofModel (.pack (add Format.binary64 x.toModel.unpack (stored (-s) m e))) := by
    rw [← unpack_neg hy hm he]
    rfl
  have apply_neg (n : Int) : (-s).apply n = -s.apply n := by
    cases s
    · exact (Int.neg_neg n).symm
    · rfl
  rw [difference, sum]
  congr 2
  by_cases hz : m = 0
  · rw [stored, stored, dif_pos hz, dif_pos hz]
    cases x.toModel.unpack <;> rfl
  · rw [stored, stored, dif_neg hz, dif_neg hz]
    cases x.toModel.unpack with
    | finite s' m' e' pos =>
      change UnpackedFloat.normalize Format.binary64
          (s'.apply (decreaseExponent m' e' (min e' e)).1 - s.apply (decreaseExponent m e (min e' e)).1)
            (min e' e) .positive = _
      rw [Int.sub_eq_add_neg, ← apply_neg]
      rfl
    | _ => rfl

theorem rounds_sub (hx : IsFinite x) (hy : IsFinite y) : Rounds (amount x - amount y) (x - y) := by
  obtain ⟨negated, value⟩ := amount_neg hy
  rw [sub_eq hy, sub_eq_add_neg, ← value]
  exact rounds_add hx negated

theorem rounds_mul (hx : IsFinite x) (hy : IsFinite y) : Rounds (amount x * amount y) (x * y) := by
  obtain ⟨s₁, m₁, e₁, h₁, _, hx⟩ := hx
  obtain ⟨s₂, m₂, e₂, h₂, _, hy⟩ := hy
  have product : x * y = .ofModel (.pack (mul Format.binary64 (stored s₁ m₁ e₁) (stored s₂ m₂ e₂))) := by
    rw [← hx, ← hy]
    rfl
  rw [product, amount, amount, hx, hy]
  by_cases z₁ : m₁ = 0
  · have left : stored s₁ m₁ e₁ = .zero s₁ := dif_pos z₁
    have zero : mul Format.binary64 (.zero s₁) (stored s₂ m₂ e₂) = .zero (s₁ * s₂) := by
      rcases stored_cases s₂ m₂ e₂ with right | ⟨_, right⟩ <;> rw [right] <;> rfl
    rw [left, zero, amountOf_zero, zero_mul]
    exact rounds_zero _
  by_cases z₂ : m₂ = 0
  · have right : stored s₂ m₂ e₂ = .zero s₂ := dif_pos z₂
    have zero : mul Format.binary64 (stored s₁ m₁ e₁) (.zero s₂) = .zero (s₁ * s₂) := by
      rw [stored, dif_neg z₁]
      rfl
    rw [right, zero, amountOf_zero, mul_zero]
    exact rounds_zero _
  have both : mul Format.binary64 (stored s₁ m₁ e₁) (stored s₂ m₂ e₂) =
      roundWithAccuracy Format.binary64 (s₁ * s₂) (m₁ * m₂) (e₁ + e₂) .exact := by
    rw [stored, stored, dif_neg z₁, dif_neg z₂]
    rfl
  have sizes : size m₁ e₁ * size m₂ e₂ = size (m₁ * m₂) (e₁ + e₂) := by
    rw [size, size, size, zpow_add₀ two_ne_zero, Nat.cast_mul]
    ring
  have some : m₁ * m₂ ≠ 0 := Nat.mul_ne_zero z₁ z₂
  have fits : e₁ + e₂ ≤ unit (m₁ * m₂) (e₁ + e₂) := by
    rw [unit_eq]
    have long (h : 2 ^ 52 ≤ m₁ * m₂) : 52 ≤ (m₁ * m₂).log2 := (Nat.le_log2 some).2 h
    rcases h₁.full with full | least₁
    · have := long (full.trans (Nat.le_mul_of_pos_right m₁ (Nat.pos_of_ne_zero z₂)))
      omega
    rcases h₂.full with full | least₂
    · have := long (full.trans (Nat.le_mul_of_pos_left m₂ (Nat.pos_of_ne_zero z₁)))
      omega
    · omega
  rw [both, amountOf_stored, amountOf_stored, ← signed_mul, sizes]
  exact rounds_pack (size_nonneg _ _) (near_roundWithAccuracy some fits _)

/-! ### Integers -/

theorem AtLeast.le (h : AtLeast x q) (hx : IsFinite x) : q ≤ amount x := by
  obtain ⟨_, lower, _⟩ := h.bounded (.inl ⟨hx, le_rfl⟩)
  exact lower

theorem AtMost.ge (h : AtMost x q) (hx : IsFinite x) : amount x ≤ q := by
  have lower : AtLeast x (amount x) := .inl ⟨hx, le_rfl⟩
  exact (lower.bounded h).2.2

theorem isDouble_two_zpow {k : Int} (lo : -1022 ≤ k) (hi : k ≤ 1023) : IsDouble (2 ^ k) := by
  refine ⟨.positive, 2 ^ 52, k - 52, ⟨by decide, by omega, .inl le_rfl⟩, by omega, ?_⟩
  have sum : (52 : Int) + (k - 52) = k := by omega
  rw [signed, size, Nat.cast_pow, Nat.cast_ofNat, ← zpow_natCast, ← zpow_add₀ two_ne_zero]
  exact congrArg (2 ^ ·) sum.symm

theorem Rounds.congr (h : Rounds q x) (hx : IsFinite x) (hy : IsFinite y) (same : amount y = amount x) :
    Rounds q y where
  below d hd hq := .inl ⟨hy, same ▸ (h.below d hd hq).le hx⟩
  above d hd hq := .inl ⟨hy, same ▸ (h.above d hd hq).ge hx⟩

theorem rounds_toFloat (n : UInt64) : Rounds n.toNat n.toFloat := by
  have rounds := rounds_normalize n.toNat 0 .positive
  rwa [zpow_zero, mul_one, Int.cast_natCast] at rounds

theorem amount_power (hx : x.toModel.unpack = stored .positive (2 ^ 52) e) (lo : -1074 ≤ e) (hi : e ≤ 971) :
    IsFinite x ∧ amount x = 2 ^ (52 + e) := by
  refine ⟨⟨.positive, 2 ^ 52, e, ⟨by decide, lo, .inl le_rfl⟩, hi, hx⟩, ?_⟩
  rw [amount, hx, amountOf_stored, signed, size, zpow_add₀ two_ne_zero, Nat.cast_pow]
  rfl

theorem amount_one : IsFinite (.ofBits 0x3FF0000000000000) ∧ amount (.ofBits 0x3FF0000000000000) = 1 :=
  amount_power (e := -52) rfl (by decide) (by decide)

theorem rounds_mul_one (h : Rounds q x) (hx : IsFinite x) : Rounds q (x * .ofBits 0x3FF0000000000000) := by
  obtain ⟨hone, one⟩ := amount_one
  have rounds := rounds_mul hx hone
  rw [one, mul_one] at rounds
  obtain ⟨finite, same⟩ := rounds.exact hx.isDouble
  exact h.congr hx finite same

theorem rounds_ofNat (n : Nat) : Rounds n (Float.ofNat n) := by
  change Rounds n (Float.ofScientific n false 0)
  unfold Float.ofScientific
  -- A number that fits a mantissa is converted as a word and multiplied by one; a greater one is rounded.
  by_cases small : n < 2 ^ 53
  · rw [dif_pos ⟨small, by decide⟩]
    have kept : n.toUInt64.toNat = n := Nat.mod_eq_of_lt (small.trans (by decide))
    have rounds := rounds_toFloat n.toUInt64
    rw [kept] at rounds
    have limit : (n : ℚ) ≤ 2 ^ (53 : Int) := by exact_mod_cast small.le
    have limited := isDouble_two_zpow (k := 53) (by decide) (by decide)
    exact rounds_mul_one rounds (rounds.bounded isDouble_zero limited n.cast_nonneg limit).1
  · rw [dif_neg (by omega)]
    have some : n * 2 ^ 53 ≠ 0 := by omega
    have scaled : ofScientific Format.binary64 n 0 =
        roundWithAccuracy Format.binary64 .positive (n * 2 ^ 53) (-53) .exact := by
      have bits : (2 : Int) ^ Format.binary64.exponentBits = 2048 := rfl
      have product (m : Nat) (pos : 0 < m) :
          mul Format.binary64 (.finite .positive m (-53) pos) (.finite .positive 1 0 one_pos) =
            roundWithAccuracy Format.binary64 .positive m (-53) .exact := by
        change roundWithAccuracy Format.binary64 .positive (m * 1) (-53 + 0) .exact = _
        rw [Nat.mul_one, Int.add_zero]
      unfold ofScientific
      rw [dif_neg (by omega), if_neg (by omega), if_neg (by omega), if_pos le_rfl, ← Nat.shiftLeft_eq]
      exact product _ _
    have value : size (n * 2 ^ 53) (-53) = n := by
      rw [size_shift, size]
      norm_num
    have fits : -53 ≤ unit (n * 2 ^ 53) (-53) := by
      have long : 53 ≤ (n * 2 ^ 53).log2 := (Nat.le_log2 some).2 (by omega)
      rw [unit_eq]
      omega
    have rounds := rounds_pack (size_nonneg _ _) (near_roundWithAccuracy some fits .positive)
    rw [← scaled, value] at rounds
    exact rounds

theorem unpack_neg_infinity (hx : x.toModel.unpack = .infinity s) : (-x).toModel.unpack = .infinity (-s) := by
  have negated : (-x).toModel.unpack =
      unpack Format.binary64 (pack Format.binary64 x.toModel.unpack.neg) := rfl
  rw [negated, hx]
  exact unpack_pack_infinity (-s)

theorem AtLeast.neg (h : AtLeast x q) : AtMost (-x) (-q) := by
  rcases h with ⟨hx, hq⟩ | infinite
  · obtain ⟨negated, value⟩ := amount_neg hx
    exact .inl ⟨negated, value ▸ neg_le_neg hq⟩
  · exact .inr (unpack_neg_infinity infinite)

theorem AtMost.neg (h : AtMost x q) : AtLeast (-x) (-q) := by
  rcases h with ⟨hx, hq⟩ | infinite
  · obtain ⟨negated, value⟩ := amount_neg hx
    exact .inl ⟨negated, value ▸ neg_le_neg hq⟩
  · exact .inr (unpack_neg_infinity infinite)

theorem Rounds.neg (h : Rounds q x) : Rounds (-q) (-x) where
  below d hd hq := neg_neg d ▸ (h.above (-d) hd.neg (le_neg_of_le_neg hq)).neg
  above d hd hq := neg_neg d ▸ (h.below (-d) hd.neg (neg_le_of_neg_le hq)).neg

theorem rounds_ofInt (n : Int) : Rounds n (Float.ofInt n) := by
  cases n with
  | ofNat n =>
    have rounds := rounds_ofNat n
    rwa [← Int.cast_natCast] at rounds
  | negSucc n =>
    have rounds := (rounds_ofNat (n + 1)).neg
    rwa [← Int.cast_natCast, ← Int.cast_neg] at rounds

theorem isInf_of_finite (h : IsFinite x) : x.isInf = false := by
  obtain ⟨s, m, e, _, _, hx⟩ := h
  have unpacked : x.isInf = x.toModel.unpack.isInf := rfl
  rw [unpacked, hx]
  rcases stored_cases s m e with hs | ⟨_, hs⟩ <;> rw [hs] <;> rfl

/-- An integer no greater than a power of two that is a double has a double next to it. -/
theorem toFloat_int {k : Nat} (hk : k ≤ 1023) (lo : -2 ^ k ≤ n) (hi : n ≤ 2 ^ k) :
    Number.toFloat (.int n) = .ok (Float.ofInt n) ∧ IsFinite (Float.ofInt n) := by
  have limit : IsDouble (2 ^ k) := by
    rw [← zpow_natCast]
    exact isDouble_two_zpow (by omega) (by omega)
  have lower : -(2 ^ k) ≤ (n : ℚ) := by exact_mod_cast lo
  have upper : (n : ℚ) ≤ 2 ^ k := by exact_mod_cast hi
  have finite := ((rounds_ofInt n).bounded limit.neg limit lower upper).1
  refine ⟨?_, finite⟩
  unfold Number.toFloat
  dsimp only
  rw [isInf_of_finite finite]
  rfl

/-! ### Comparisons -/

theorem compareFloat_eq (n : Int) (h : IsFinite x) :
    Number.compareFloat n x = some (compare (n : ℚ) (amount x)) := by
  obtain ⟨s, m, e, hm, _, hx⟩ := h
  have parts : Decimal.parts x = .finite ⟨isNegative s, m, e⟩ := by
    rw [parts_eq, hx, partsOf_stored hm]
  rw [amount, hx, amountOf_stored, Number.compareFloat, parts]
  dsimp only [Decimal.Binary.ratio]
  -- Both sides are scaled by the denominator.
  set d : Nat := Nat.pow 2 (-e).toNat with hd
  have pos : (0 : ℚ) < d := by
    rw [hd, Nat.pow_eq]
    positivity
  have top : size m e * d = (m * Nat.pow 2 e.toNat : Nat) := by
    have exponent : e + ((-e).toNat : Int) = (e.toNat : Int) := by omega
    rw [hd, size, Nat.pow_eq, Nat.pow_eq, Nat.cast_mul, Nat.cast_pow, Nat.cast_pow, Nat.cast_ofNat,
      mul_assoc, ← zpow_natCast, ← zpow_natCast, ← zpow_add₀ two_ne_zero, exponent]
  have scaled : ((if isNegative s then -((m * Nat.pow 2 e.toNat : Nat) : Int) else
      (m * Nat.pow 2 e.toNat : Nat) : Int) : ℚ) = signed s (size m e) * d := by
    cases s
    · rw [isNegative, if_pos rfl, Int.cast_neg, Int.cast_natCast, signed, neg_mul, top]
    · rw [isNegative, if_neg (by decide), Int.cast_natCast, signed, top]
  have exact_order : StrictMono (Int.cast : Int → ℚ) := Int.cast_strictMono
  have scaled_order : StrictMono fun q : ℚ => q * d := fun _ _ h => mul_lt_mul_of_pos_right h pos
  rw [← cmp_eq_compare, ← cmp_eq_compare, ← exact_order.cmp_map_eq, scaled, Int.cast_mul,
    Int.cast_natCast]
  exact congrArg some (scaled_order.cmp_map_eq _ _)

end NodeReclaim.Double
