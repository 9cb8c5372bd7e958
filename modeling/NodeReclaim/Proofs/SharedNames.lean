import NodeReclaim.Proofs.Blanks
import NodeReclaim.Proofs.SharedGroup
import NodeReclaim.Proofs.Texts

/-! Names that groups share their resources under. A name can be made of every proper group, and two groups have
the same name only if they are the same up to letter case. What stands before the group may change with it: a
sigma there is in its final form or not, depending on the letters of the group. But it does not depend on their
case, and apart from its sigmas the lowercase of a text is made character by character. -/
namespace NodeReclaim

namespace Text

theorem meetsCased_cons (c : Char) (s : List Char) :
    meetsCased (c :: s) = if isCaseIgnorable c then meetsCased s else isCased c := by
  cases h : isCaseIgnorable c <;> simp [meetsCased, h]

theorem meetsCased_append (p : List Char) (h : meetsCased s = meetsCased t) :
    meetsCased (p ++ s) = meetsCased (p ++ t) := by
  induction p with
  | nil => exact h
  | cons c p ih => rw [List.cons_append, List.cons_append, meetsCased_cons, meetsCased_cons, ih]

/-- Apart from its own lowercase, what follows a text matters to the whole only by the letter it begins with. -/
theorem lowerAfter_append (p : List Char) (cased : meetsCased s = meetsCased t)
    (same : ∀ before, lowerAfter before s = lowerAfter before t) (before : List Char) :
    lowerAfter before (p ++ s) = lowerAfter before (p ++ t) := by
  induction p generalizing before with
  | nil => exact same before
  | cons c p ih =>
    rw [List.cons_append, List.cons_append, lowerAfter, lowerAfter, ih, meetsCased_append p cased]

/-! ### Texts of ASCII characters -/

theorem inRanges_below (ranges : List (Nat × Nat)) (h : n < bound) :
    inRanges (ranges.filter fun r => r.1 < bound) n = inRanges ranges n := by
  rw [inRanges, inRanges, List.any_filter, Bool.eq_iff_iff, List.any_eq_true, List.any_eq_true]
  apply exists_congr
  intro r
  simp only [Bool.and_eq_true, decide_eq_true_eq]
  constructor
  · rintro ⟨hr, _, inside⟩
    exact ⟨hr, inside⟩
  · rintro ⟨hr, inside⟩
    exact ⟨hr, Nat.lt_of_le_of_lt inside.1 h, inside⟩

def asciiCased : List (Nat × Nat) := [(0x41, 0x5A), (0x61, 0x7A)]

def asciiIgnorable : List (Nat × Nat) := [(0x27, 0x27), (0x2E, 0x2E), (0x3A, 0x3A), (0x5E, 0x5E), (0x60, 0x60)]

theorem isCased_ascii (h : c.toNat < 0x80) : isCased c = inRanges asciiCased c.toNat := by
  have lowest : (casedRanges.filter fun r => r.1 < 0x80) = asciiCased := by decide +kernel
  rw [isCased, ← inRanges_below casedRanges h, lowest]

theorem isCaseIgnorable_ascii (h : c.toNat < 0x80) : isCaseIgnorable c = inRanges asciiIgnorable c.toNat := by
  have lowest : (caseIgnorableRanges.filter fun r => r.1 < 0x80) = asciiIgnorable := by decide +kernel
  rw [isCaseIgnorable, ← inRanges_below caseIgnorableRanges h, lowest]

theorem toLower_ofNat : ∀ n < 0x80, let c := Char.ofNat n
    (c ≠ 'Σ' ∧ lowerChar c = [c.toLower] ∧ mergeSigma c.toLower = c.toLower) ∧ c.toLower.toNat < 0x80 ∧
      inRanges asciiCased c.toLower.toNat = inRanges asciiCased c.toNat ∧
      inRanges asciiIgnorable c.toLower.toNat = inRanges asciiIgnorable c.toNat := by
  decide +kernel

def IsAscii (s : List Char) : Prop := ∀ c ∈ s, c.toNat < 0x80

theorem IsAscii.case (h : IsAscii s) (hc : c ∈ s) :
    (c ≠ 'Σ' ∧ lowerChar c = [c.toLower] ∧ mergeSigma c.toLower = c.toLower) ∧
      isCased c.toLower = isCased c ∧ isCaseIgnorable c.toLower = isCaseIgnorable c := by
  have below : c.toNat < 0x80 := h c hc
  have lowered := toLower_ofNat c.toNat below
  rw [Char.ofNat_toNat] at lowered
  obtain ⟨single, below', cased, ignorable⟩ := lowered
  rw [isCased_ascii below, isCased_ascii below', isCaseIgnorable_ascii below, isCaseIgnorable_ascii below']
  exact ⟨single, cased, ignorable⟩

theorem IsAscii.tail (h : IsAscii (c :: s)) : IsAscii s := fun d hd => h d (List.mem_cons_of_mem c hd)

theorem folded_ascii (h : IsAscii s) : folded s = s.map Char.toLower := by
  induction s with
  | nil => rfl
  | cons c s ih =>
    obtain ⟨⟨_, single, same⟩, _⟩ := h.case List.mem_cons_self
    have rest : folded s = s.map Char.toLower := ih h.tail
    rw [folded, List.flatMap_cons, single, List.map_singleton, same, List.map_cons, ← rest]
    rfl

theorem lowerAfter_ascii (h : IsAscii s) (before : List Char) : lowerAfter before s = s.map Char.toLower := by
  induction s generalizing before with
  | nil => rfl
  | cons c s ih =>
    obtain ⟨⟨other, single, _⟩, _⟩ := h.case List.mem_cons_self
    rw [lowerAfter, if_neg other, single, ih h.tail]
    rfl

theorem meetsCased_toLower (h : IsAscii s) : meetsCased (s.map Char.toLower) = meetsCased s := by
  induction s with
  | nil => rfl
  | cons c s ih =>
    obtain ⟨_, cased, ignorable⟩ := h.case List.mem_cons_self
    rw [List.map_cons, meetsCased_cons, meetsCased_cons, ih h.tail, cased, ignorable]

/-- Under one lead, texts of ASCII characters have the same lowercase if they are the same up to case. -/
theorem lower_append_iff (lead : List Char) (hs : IsAscii s) (ht : IsAscii t) :
    lower (lead ++ s) = lower (lead ++ t) ↔ s.map Char.toLower = t.map Char.toLower := by
  constructor
  · intro same
    have folds : folded (lead ++ s) = folded (lead ++ t) := by rw [← map_lower, ← map_lower, same]
    rw [folded_append, folded_append, folded_ascii hs, folded_ascii ht] at folds
    exact List.append_cancel_left folds
  · intro same
    apply lowerAfter_append lead
    · rw [← meetsCased_toLower hs, ← meetsCased_toLower ht, same]
    · intro before
      rw [lowerAfter_ascii hs, lowerAfter_ascii ht, same]

end Text

namespace Naming
open Text

/-- What a line pattern accepts: its end matches at the end of a text, and before a final line feed as well. -/
inductive IsGroupLine : List Char → Prop
  | whole (filled : g ≠ []) (proper : ∀ c ∈ g, isGroupChar c = true) : IsGroupLine g
  | line (filled : g ≠ []) (proper : ∀ c ∈ g, isGroupChar c = true) : IsGroupLine (g ++ ['\n'])

theorem isGroupName_iff (group : String) :
    IsGroupName group ↔ trim group.toList ≠ [] ∧ ∀ c ∈ trim group.toList, isGroupChar c = true := by
  simp only [IsGroupName, isGroupChar_iff]

theorem isGroupLine_iff (group : String) : IsGroupLine (trim group.toList) ↔ IsGroupName group := by
  rw [isGroupName_iff]
  constructor
  · intro h
    generalize ht : trim group.toList = t at h
    cases h with
    | whole filled proper => exact ⟨filled, proper⟩
    | line =>
      have tight := isTight_trim group.toList
      rw [ht] at tight
      exact absurd (tight.last '\n' (by simp)) (by decide)
  · rintro ⟨filled, proper⟩
    exact .whole filled proper

theorem isAscii_of_isGroupName (h : IsGroupName group) : IsAscii (trim group.toList) := by
  intro c hc
  have kind := ((isGroupName_iff group).1 h).2 c hc
  simp only [isGroupChar, Bool.or_eq_true, Bool.and_eq_true, decide_eq_true_eq] at kind
  rcases kind with ((((_ | _) | _) | rfl) | rfl) | rfl
  all_goals first | omega | decide

theorem shared_cases (n : Naming) (group : String) :
    (IsGroupName group ∧ n.shared group = .ok (n.join (trim group.toList))) ∨
      ¬ IsGroupName group ∧ n.shared group = .error (.group (String.ofList (trim group.toList))) := by
  unfold shared groupOf
  dsimp only
  rw [isGroupName_iff, ← List.all_eq_true, ne_eq, ← List.isEmpty_iff]
  cases (trim group.toList).isEmpty <;> cases (trim group.toList).all isGroupChar <;> simp [Except.map]

theorem join_eq_iff (n : Naming) (hg : IsAscii g) (hh : IsAscii h) :
    n.join g = n.join h ↔ g.map Char.toLower = h.map Char.toLower := by
  rw [join, join, String.ofList_inj]
  exact lower_append_iff (n.lead.toList ++ n.delimiter.toList) hg hh

/-- The groups that have a name, which is the lowercase of the lead, the delimiter and the trimmed group together,
and when two of them have the same one. -/
theorem shared_names_apart (n : Naming) :
    (∀ group, match n.shared group with
      | .ok name => IsGroupName group ∧ IsGroupLine (trim group.toList) ∧
          name.toList = lower (n.lead.toList ++ n.delimiter.toList ++ trim group.toList)
      | .error e => ¬ IsGroupName group ∧ ¬ IsGroupLine (trim group.toList) ∧
          e = .group (String.ofList (trim group.toList))) ∧
    ∀ g h, match n.shared g, n.shared h with
      | .ok name, .ok name' =>
        name = name' ↔ (trim g.toList).map Char.toLower = (trim h.toList).map Char.toLower
      | _, _ => ¬ IsGroupName g ∨ ¬ IsGroupName h := by
  constructor
  · intro group
    rw [isGroupLine_iff]
    obtain ⟨proper, result⟩ | ⟨improper, result⟩ := shared_cases n group
    · rw [result]
      exact ⟨proper, proper, String.toList_ofList⟩
    · rw [result]
      exact ⟨improper, improper, rfl⟩
  · intro g h
    obtain ⟨hg, result⟩ | ⟨hg, result⟩ := shared_cases n g
    · obtain ⟨hh, result'⟩ | ⟨hh, result'⟩ := shared_cases n h
      · rw [result, result']
        exact join_eq_iff n (isAscii_of_isGroupName hg) (isAscii_of_isGroupName hh)
      · rw [result, result']
        exact .inr hh
    · rw [result]
      exact .inl hg

/-- The group decides how the sigma before it is written. -/
example : join ⟨"Σ", "Σ"⟩ ['7'] = "σς7" ∧ join ⟨"Σ", "Σ"⟩ ['B'] = "σσb" := by decide +kernel

end Naming

end NodeReclaim
