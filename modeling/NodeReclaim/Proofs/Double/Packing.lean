import NodeReclaim.Decimal.Binary
import NodeReclaim.Proofs.Double.Rounding

/-! Doubles as they are packed into a word: what can be packed is read back unchanged, unless its exponent is
too great, and the parts of a double are those that its word unpacks to. -/
namespace NodeReclaim.Double
open Float.Model (Format UnpackedFloat)
open Float.Model.UnpackedFloat

def ofFields (s : Sign) (field : BitVec 11) (fraction : BitVec 52) : UnpackedFloat :=
  if field = -1#11 then if fraction = 0#52 then .infinity s else .notANumber
  else if field = 0#11 then stored s fraction.toNat (-1074)
  else stored s (2 ^ 52 + fraction.toNat) ((field.toNat : Int) - 1075)

theorem toNat_leading (fraction : BitVec 52) : (1#1 ++ fraction).toNat = 2 ^ 52 + fraction.toNat := by
  rw [BitVec.toNat_append, ← Nat.shiftLeft_add_eq_or_of_lt fraction.isLt]
  rfl

theorem finite_eq_stored (h : n = m) (s : Sign) (e : Int) (pos : 0 < n) :
    UnpackedFloat.finite s n e pos = stored s m e := by
  subst h
  rw [stored, dif_neg pos.ne']

theorem unpack_eq (b : BitVec 64) :
    unpack Format.binary64 b =
      ofFields (Sign.ofBitVec (@unpackSign Format.binary64 b)) (@unpackExponent Format.binary64 b)
        (@unpackMantissa Format.binary64 b) := by
  unfold unpack ofFields
  dsimp only
  refine ite_congr rfl (fun _ => rfl) fun _ => ite_congr rfl (fun subnormal => ?_) fun _ => ?_
  · by_cases none : @unpackMantissa Format.binary64 b = 0#52
    · refine (dif_pos none).trans ?_
      rw [none]
      rfl
    · have pos : (@unpackMantissa Format.binary64 b).toNat ≠ 0 := by
        simpa [← BitVec.toNat_inj] using none
      refine (dif_neg none).trans ?_
      rw [stored, dif_neg pos, subnormal]
      rfl
  · exact finite_eq_stored (toNat_leading _) _ _ _

theorem unpackSign_packComponents (s : Sign) (field : BitVec 11) (fraction : BitVec 52) :
    unpackSign (packComponents Format.binary64 s field fraction) = s.toBitVec := by
  change (s.toBitVec ++ field ++ fraction).extractLsb' 63 1 = s.toBitVec
  rw [BitVec.extractLsb'_append_eq_of_le (by decide), BitVec.extractLsb'_append_eq_of_le (by decide)]
  cases s <;> rfl

theorem unpack_packComponents (s : Sign) (field : BitVec 11) (fraction : BitVec 52) :
    unpack Format.binary64 (packComponents Format.binary64 s field fraction) =
      ofFields s field fraction := by
  rw [unpack_eq, unpackSign_packComponents, unpackExponent_packComponents, unpackMantissa_packComponents]
  cases s <;> rfl

/-- A double that is stored in full is packed without its leading bit. -/
theorem ofFields_full (h : Stored m e) (full : 2 ^ 52 ≤ m) (he : e ≤ 971) (s : Sign) :
    ofFields s (BitVec.ofNat 11 (e + 1075).toNat) (BitVec.ofNat 52 m) = stored s m e := by
  have lt := h.lt
  have le := h.le
  have field : (BitVec.ofNat 11 (e + 1075).toNat).toNat = (e + 1075).toNat := by
    rw [BitVec.toNat_ofNat]
    omega
  have fraction : (BitVec.ofNat 52 m).toNat = m - 2 ^ 52 := by
    rw [BitVec.toNat_ofNat]
    omega
  have finite : BitVec.ofNat 11 (e + 1075).toNat ≠ -1#11 := by
    rw [ne_eq, ← BitVec.toNat_inj, field]
    change (e + 1075).toNat ≠ 2047
    omega
  have normal : BitVec.ofNat 11 (e + 1075).toNat ≠ 0#11 := by
    rw [ne_eq, ← BitVec.toNat_inj, field]
    change (e + 1075).toNat ≠ 0
    omega
  have mantissa : 2 ^ 52 + (m - 2 ^ 52) = m := by omega
  have exponent : ((e + 1075).toNat : Int) - 1075 = e := by omega
  rw [ofFields, if_neg finite, if_neg normal, field, fraction, mantissa, exponent]

theorem ofFields_short (h : m < 2 ^ 52) (s : Sign) :
    ofFields s 0#11 (BitVec.ofNat 52 m) = stored s m (-1074) := by
  rw [ofFields, if_neg (by decide), if_pos rfl, BitVec.toNat_ofNat, Nat.mod_eq_of_lt h]

theorem unpack_pack_infinity (s : Sign) :
    unpack Format.binary64 (pack Format.binary64 (.infinity s)) = .infinity s :=
  (unpack_packComponents s (-1#11) 0#52).trans rfl

/-- What is packed is read back, or it is past the greatest double. -/
theorem unpack_pack (h : Stored m e) (s : Sign) :
    unpack Format.binary64 (pack Format.binary64 (stored s m e)) =
      if e ≤ 971 then stored s m e else .infinity s := by
  have lt := h.lt
  have le := h.le
  have full := h.full
  by_cases hm : m = 0
  · subst hm
    have least : e = -1074 := by omega
    have zero : unpack Format.binary64 (pack Format.binary64 (.zero s)) = .zero s :=
      (unpack_packComponents s 0#11 0#52).trans (by cases s <;> rfl)
    rw [if_pos (by omega), stored, dif_pos rfl, zero]
  have bits : m.log2 + 1 = 53 ↔ 2 ^ 52 ≤ m := by
    have := Nat.le_log2 (k := 52) hm
    have := (Nat.log2_lt hm).2 lt
    omega
  have packed : pack Format.binary64 (stored s m e) =
      if 2048 ≤ (e + 1075).toNat + 1 then packedInfinity Format.binary64 s
      else if m.log2 + 1 = 53 then
        packComponents Format.binary64 s (BitVec.ofNat 11 (e + 1075).toNat) (BitVec.ofNat 52 m)
      else packComponents Format.binary64 s 0#11 (BitVec.ofNat 52 m) := by
    have biased : e + 1023 + 52 = e + 1075 := by omega
    rw [stored, dif_neg hm, ← biased]
    rfl
  by_cases less : e ≤ 971
  · rw [packed, if_neg (by omega), if_pos less]
    by_cases all : 2 ^ 52 ≤ m
    · rw [if_pos (bits.2 all), unpack_packComponents]
      exact ofFields_full h all less s
    · rw [if_neg (mt bits.1 all), unpack_packComponents, full.resolve_left all]
      exact ofFields_short (by omega) s
  · rw [packed, if_pos (by omega), if_neg less]
    exact unpack_pack_infinity s

/-- What a word can hold: no number, an infinite amount, or an amount that is stored. -/
theorem ofFields_cases (s : Sign) (field : BitVec 11) (fraction : BitVec 52) :
    ofFields s field fraction = .notANumber ∨ ofFields s field fraction = .infinity s ∨
      ∃ m e, Stored m e ∧ e ≤ 971 ∧ ofFields s field fraction = stored s m e := by
  have := fraction.isLt
  have := field.isLt
  unfold ofFields
  split
  · split
    · exact .inr (.inl rfl)
    · exact .inl rfl
  next finite =>
    split
    next subnormal => exact .inr (.inr ⟨_, _, ⟨by omega, by omega, .inr rfl⟩, by omega, rfl⟩)
    next normal =>
      have notLeast : field.toNat ≠ 0 := by simpa [← BitVec.toNat_inj] using normal
      have notGreatest : field.toNat ≠ 2047 := by
        rw [← BitVec.toNat_inj] at finite
        exact finite
      exact .inr (.inr ⟨_, _, ⟨by omega, by omega, .inl (by omega)⟩, by omega, rfl⟩)

/-! ### Parts -/

def isNegative : Sign → Bool
  | .negative => true
  | .positive => false

def partsOf : UnpackedFloat → Decimal.Parts
  | .notANumber => .nan
  | .infinity s => .infinite (isNegative s)
  | .zero s => .finite ⟨isNegative s, 0, -1074⟩
  | .finite s m e _ => .finite ⟨isNegative s, m, e⟩

theorem partsOf_stored (h : Stored m e) (s : Sign) :
    partsOf (stored s m e) = .finite ⟨isNegative s, m, e⟩ := by
  by_cases hm : m = 0
  · subst hm
    have least : e = -1074 := h.full.resolve_left (by decide)
    rw [stored, dif_pos rfl, least]
    rfl
  · rw [stored, dif_neg hm]
    rfl

theorem toNat_unpackExponent (b : BitVec 64) :
    (@unpackExponent Format.binary64 b).toNat = b.toNat / 2 ^ 52 % 2 ^ 11 := by
  rw [← Nat.shiftRight_eq_div_pow]
  exact BitVec.extractLsb_toNat 62 52 b

theorem toNat_unpackMantissa (b : BitVec 64) :
    (@unpackMantissa Format.binary64 b).toNat = b.toNat % 2 ^ 52 :=
  (BitVec.extractLsb_toNat 51 0 b).trans rfl

theorem isNegative_unpackSign (b : BitVec 64) :
    isNegative (Sign.ofBitVec (@unpackSign Format.binary64 b)) = (b.toNat / 2 ^ 63 % 2 == 1) := by
  have bit : (@unpackSign Format.binary64 b).toNat = b.toNat / 2 ^ 63 % 2 := by
    rw [← Nat.shiftRight_eq_div_pow]
    exact BitVec.extractLsb_toNat 63 63 b
  rw [← bit]
  generalize @unpackSign Format.binary64 b = v
  have hv : v = 0#1 ∨ v = 1#1 := by
    have := v.isLt
    rw [← BitVec.toNat_inj, ← BitVec.toNat_inj]
    simp only [BitVec.toNat_ofNat]
    omega
  rcases hv with rfl | rfl <;> rfl

theorem partsOf_ofFields (s : Sign) (field : BitVec 11) (fraction : BitVec 52) :
    partsOf (ofFields s field fraction) =
      if field.toNat = 2047 then
        if fraction.toNat = 0 then .infinite (isNegative s) else .nan
      else if field.toNat = 0 then .finite ⟨isNegative s, fraction.toNat, -1074⟩
      else .finite ⟨isNegative s, 2 ^ 52 + fraction.toNat, (field.toNat : Int) - 1075⟩ := by
  have greatest : field = -1#11 ↔ field.toNat = 2047 := BitVec.toNat_inj.symm
  have least : field = 0#11 ↔ field.toNat = 0 := BitVec.toNat_inj.symm
  have zero : fraction = 0#52 ↔ fraction.toNat = 0 := BitVec.toNat_inj.symm
  have := fraction.isLt
  unfold ofFields
  simp only [greatest, least, zero]
  by_cases hg : field.toNat = 2047
  · rw [if_pos hg, if_pos hg]
    split <;> rfl
  · rw [if_neg hg, if_neg hg]
    by_cases hl : field.toNat = 0
    · rw [if_pos hl, if_pos hl, partsOf_stored ⟨by omega, le_rfl, .inr rfl⟩]
    · rw [if_neg hl, if_neg hl, partsOf_stored ⟨by omega, by omega, .inl (by omega)⟩]

theorem parts_eq (x : Float) : Decimal.parts x = partsOf x.toModel.unpack := by
  have word : x.toModel.unpack = unpack Format.binary64 x.toBits.toBitVec := rfl
  have bits : x.toBits.toBitVec.toNat = x.toBits.toNat := rfl
  rw [word, unpack_eq, partsOf_ofFields, toNat_unpackExponent, toNat_unpackMantissa,
    isNegative_unpackSign, bits]
  rfl

end NodeReclaim.Double
