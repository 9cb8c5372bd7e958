import NodeReclaim.Text.Lower
import NodeReclaim.Text.Search

/-! Texts: where a pattern is found first, into which pieces a text is cut, and what lowercasing does to the
places of a text. The lowercase of a character depends on what stands around it only for the capital sigma, and
only the dotted capital I makes a text longer. -/
namespace NodeReclaim.Text

/-! ### Places of a pattern -/

theorem find?_eq_some_iff {pattern s : List Char} {i : Nat} :
    find? pattern s = some i ↔ pattern <+: s.drop i ∧ ∀ j < i, ¬ pattern <+: s.drop j := by
  induction s generalizing i with
  | nil =>
    cases pattern with
    | nil =>
      cases i with
      | zero => simp [find?]
      | succ i => exact iff_of_false nofun fun h => h.2 0 (Nat.succ_pos i) List.nil_prefix
    | cons c pattern => simp [find?]
  | cons c rest ih =>
    rw [find?]
    split
    next here =>
      have found : pattern <+: c :: rest := List.isPrefixOf_iff_prefix.1 here
      cases i with
      | zero => simp [found]
      | succ i => exact iff_of_false nofun fun h => h.2 0 (Nat.succ_pos i) found
    next elsewhere =>
      have absent : ¬ pattern <+: c :: rest := mt List.isPrefixOf_iff_prefix.2 elsewhere
      cases i with
      | zero => simp [absent]
      | succ i =>
        simp only [Option.map_eq_some_iff, Nat.add_right_cancel_iff, exists_eq_right, ih,
          List.drop_succ_cons]
        apply and_congr_right
        intro _
        constructor
        · rintro least (_ | j) hj
          · exact absent
          · exact least j (Nat.lt_of_succ_lt_succ hj)
        · intro least j hj
          exact least (j + 1) (Nat.succ_lt_succ hj)

/-! ### Pieces -/

theorem splitAt_eq_splitOn (separator : Char) (s : List Char) :
    splitAt separator s = s.splitOn separator := by
  induction s with
  | nil => rfl
  | cons c rest ih =>
    rw [splitAt, ih, List.splitOn_cons_eq_if_modifyHead]
    cases h : rest.splitOn separator with
    | nil => exact absurd h (List.splitOn_ne_nil separator rest)
    | cons piece pieces => simp

theorem length_splitAt (separator : Char) (s : List Char) :
    (splitAt separator s).length = s.count separator + 1 := by
  induction s with
  | nil => rfl
  | cons c rest ih =>
    rw [splitAt]
    cases h : splitAt separator rest with
    | nil =>
      rw [h] at ih
      cases ih
    | cons piece pieces =>
      rw [h] at ih
      dsimp only
      by_cases hc : c = separator
      · rw [if_pos hc, hc, List.count_cons_self, ← ih, List.length_cons]
      · rw [if_neg hc, List.count_cons_of_ne hc, ← ih]
        rfl

theorem not_mem_of_mem_splitAt {separator : Char} {s piece : List Char} (h : piece ∈ splitAt separator s) :
    separator ∉ piece := by
  induction s generalizing piece with
  | nil =>
    rw [List.mem_singleton.1 h]
    exact List.not_mem_nil
  | cons c rest ih =>
    rw [splitAt] at h
    split at h
    next none =>
      have counted := length_splitAt separator rest
      rw [none] at counted
      cases counted
    next first pieces split =>
      rw [split] at ih
      have kept : separator ∉ first := ih List.mem_cons_self
      split at h
      next =>
        rcases List.mem_cons.1 h with rfl | h
        · exact List.not_mem_nil
        · exact ih h
      next other =>
        rcases List.mem_cons.1 h with rfl | h
        · exact List.not_mem_cons_of_ne_of_not_mem (Ne.symm other) kept
        · exact ih (List.mem_cons_of_mem _ h)

theorem splitAt_pair_iff {separator : Char} {s left right : List Char} :
    splitAt separator s = [left, right] ↔
      s = left ++ separator :: right ∧ separator ∉ left ∧ separator ∉ right := by
  constructor
  · intro h
    have counted : 2 = s.count separator + 1 := by rw [← length_splitAt, h]; rfl
    rw [splitAt_eq_splitOn] at h
    have joined : s = left ++ separator :: right := by
      have whole : [separator].intercalate (s.splitOn separator) = s := List.intercalate_splitOn separator
      rw [← whole, h]
      simp [List.intercalate]
    rw [joined, List.count_append, List.count_cons_self] at counted
    refine ⟨joined, List.count_eq_zero.1 ?_, List.count_eq_zero.1 ?_⟩ <;> omega
  · rintro ⟨rfl, hl, hr⟩
    rw [splitAt_eq_splitOn, List.splitOn_append_cons_self_of_not_mem hl, List.splitOn_eq_singleton hr]

/-! ### Letter case -/

def mergeSigma (c : Char) : Char := if c = 'ς' then 'σ' else c

/-- The lowercase of a text up to its small sigmas. Every character has a part of its own in it. -/
def folded (s : List Char) : List Char := s.flatMap fun c => (lowerChar c).map mergeSigma

@[simp] theorem folded_append (s t : List Char) : folded (s ++ t) = folded s ++ folded t :=
  List.flatMap_append

theorem folded_dotted (s : List Char) : folded ('İ' :: s) = 'i' :: '\u0307' :: folded s := rfl

theorem folded_single {c : Char} (h : c ≠ 'İ') : ∃ d, ∀ s, folded (c :: s) = d :: folded s := by
  have other : c.toNat ≠ 0x130 := fun hc => h (Char.toNat_inj.1 hc)
  have single : ∃ d, lowerChar c = [d] := by
    unfold lowerChar
    dsimp only
    split
    · exact ⟨_, rfl⟩
    · split <;> exact ⟨_, rfl⟩
  obtain ⟨d, hd⟩ := single
  refine ⟨mergeSigma d, fun s => ?_⟩
  rw [folded, List.flatMap_cons, hd]
  rfl

theorem map_lowerAfter (before s : List Char) : (lowerAfter before s).map mergeSigma = folded s := by
  induction s generalizing before with
  | nil => rfl
  | cons c rest ih =>
    rw [lowerAfter, List.map_append, ih]
    apply congrArg (· ++ folded rest)
    split
    next sigma =>
      rw [sigma]
      split <;> decide
    next => rfl

theorem map_lower (s : List Char) : (lower s).map mergeSigma = folded s := map_lowerAfter [] s

theorem length_le_folded (s : List Char) : s.length ≤ (folded s).length := by
  induction s with
  | nil => exact Nat.le_refl 0
  | cons c s ih =>
    by_cases hc : c = 'İ'
    · subst hc
      rw [folded_dotted]
      exact Nat.succ_le_succ (Nat.le_succ_of_le ih)
    · obtain ⟨d, hd⟩ := folded_single hc
      rw [hd]
      exact Nat.succ_le_succ ih

theorem length_folded_iff (s : List Char) : (folded s).length = s.length ↔ 'İ' ∉ s := by
  induction s with
  | nil => exact iff_of_true rfl nofun
  | cons c s ih =>
    by_cases hc : c = 'İ'
    · subst hc
      have grown : s.length ≤ (folded s).length := length_le_folded s
      refine iff_of_false ?_ fun absent => absent List.mem_cons_self
      rw [folded_dotted, List.length_cons, List.length_cons, List.length_cons]
      omega
    · obtain ⟨d, hd⟩ := folded_single hc
      rw [hd, List.length_cons, List.length_cons, Nat.add_right_cancel_iff, ih, List.mem_cons,
        or_iff_right (Ne.symm hc)]

/-- A pattern stands at a place of a text, in whatever mixture of cases it is written there. -/
def StandsAt (pattern s : List Char) (i : Nat) : Prop :=
  lower ((s.drop i).take pattern.length) = pattern

instance : Decidable (StandsAt pattern s i) :=
  inferInstanceAs (Decidable (lower ((s.drop i).take pattern.length) = pattern))

/-- A pattern that lowercasing brings about only by lowering the pattern itself: it has nothing of the two
characters that the dotted capital I becomes but an i further in, and no sigma. -/
structure IsPlain (pattern : List Char) : Prop where
  nonempty : pattern ≠ []
  sigma : 'σ' ∉ pattern
  finalSigma : 'ς' ∉ pattern
  dot : '\u0307' ∉ pattern
  last : pattern.getLast? ≠ some 'i'

theorem prefix_map_iff {m s : List Char} (h : 'σ' ∉ m) (h' : 'ς' ∉ m) :
    m <+: s.map mergeSigma ↔ m <+: s := by
  induction m generalizing s with
  | nil => simp
  | cons x m ih =>
    cases s with
    | nil => simp
    | cons y s =>
      rw [List.mem_cons, not_or] at h h'
      have same : x = mergeSigma y ↔ x = y := by
        unfold mergeSigma
        split
        next final => simp [final, Ne.symm h.1, Ne.symm h'.1]
        next => rfl
      rw [List.map_cons, List.cons_prefix_cons, List.cons_prefix_cons, ih h.2 h'.2, same]

theorem folded_take {m s : List Char} (dot : '\u0307' ∉ m) (last : m.getLast? ≠ some 'i')
    (h : m <+: folded s) : folded (s.take m.length) = m := by
  induction m generalizing s with
  | nil => rfl
  | cons x m ih =>
    cases s with
    | nil => cases List.prefix_nil.1 h
    | cons c s =>
      rw [List.mem_cons, not_or] at dot
      by_cases hc : c = 'İ'
      · subst hc
        rw [folded_dotted] at h
        obtain ⟨rfl, more⟩ := List.cons_prefix_cons.1 h
        cases m with
        | nil => exact absurd rfl last
        | cons y m =>
          obtain ⟨rfl, _⟩ := List.cons_prefix_cons.1 more
          exact absurd List.mem_cons_self dot.2
      · obtain ⟨d, hd⟩ := folded_single hc
        rw [hd] at h
        obtain ⟨rfl, more⟩ := List.cons_prefix_cons.1 h
        have rest : m.getLast? ≠ some 'i' := fun hm => last (by rw [List.getLast?_cons, hm]; rfl)
        rw [List.length_cons, List.take_succ_cons, hd, ih dot.2 rest more]

/-- A pattern somewhere in the lowercase starts with what one of the characters became. -/
theorem exists_place {m s : List Char} (nonempty : m ≠ []) (dot : '\u0307' ∉ m)
    (h : m <+: (folded s).drop q) :
    ∃ i, q = (folded (s.take i)).length ∧ i ≤ s.length ∧ m <+: folded (s.drop i) := by
  induction s generalizing q with
  | nil => exact absurd (List.prefix_nil.1 (by simpa [folded] using h)) nonempty
  | cons c s ih =>
    cases q with
    | zero => exact ⟨0, rfl, Nat.zero_le _, h⟩
    | succ q =>
      by_cases hc : c = 'İ'
      · subst hc
        cases q with
        | zero =>
          cases m with
          | nil => exact absurd rfl nonempty
          | cons x m =>
            obtain ⟨rfl, _⟩ := List.cons_prefix_cons.1 h
            exact absurd List.mem_cons_self dot
        | succ q =>
          obtain ⟨i, rfl, inside, found⟩ := ih h
          exact ⟨i + 1, rfl, Nat.succ_le_succ inside, found⟩
      · obtain ⟨d, hd⟩ := folded_single hc
        rw [hd] at h
        obtain ⟨i, rfl, inside, found⟩ := ih h
        refine ⟨i + 1, ?_, Nat.succ_le_succ inside, found⟩
        rw [List.take_succ_cons, hd]
        rfl

namespace IsPlain
variable {m s : List Char} (hm : IsPlain m)
include hm

theorem prefix_drop_lower_iff (q : Nat) : m <+: (lower s).drop q ↔ m <+: (folded s).drop q := by
  rw [← map_lower, ← List.map_drop, prefix_map_iff hm.sigma hm.finalSigma]

theorem lower_eq_iff : lower s = m ↔ folded s = m := by
  have same : (lower s).length = (folded s).length := by rw [← map_lower, List.length_map]
  have starts : m <+: lower s ↔ m <+: folded s := hm.prefix_drop_lower_iff 0
  constructor
  · rintro rfl
    exact ((starts.1 (List.prefix_refl _)).eq_of_length same).symm
  · rintro rfl
    exact ((starts.2 (List.prefix_refl _)).eq_of_length same.symm).symm

theorem standsAt_iff (i : Nat) : StandsAt m s i ↔ m <+: folded (s.drop i) := by
  rw [StandsAt, hm.lower_eq_iff]
  constructor
  · intro h
    rw [← List.take_append_drop m.length (s.drop i), folded_append, h]
    exact List.prefix_append _ _
  · exact folded_take hm.dot hm.last

/-- Where the lowercase of a text has the pattern, the text has it at the place that became this one. -/
theorem exists_standsAt (h : m <+: (folded s).drop q) :
    ∃ i, q = (folded (s.take i)).length ∧ i < s.length ∧ StandsAt m s i := by
  obtain ⟨i, hq, inside, found⟩ := exists_place hm.nonempty hm.dot h
  refine ⟨i, hq, Nat.lt_of_le_of_ne inside ?_, (hm.standsAt_iff i).2 found⟩
  rintro rfl
  rw [List.drop_length] at found
  exact hm.nonempty (List.prefix_nil.1 found)

end IsPlain

end NodeReclaim.Text
