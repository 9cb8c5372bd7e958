import NodeReclaim.Proofs.Texts
import NodeReclaim.Retry.Masking

/-! Credentials in error texts. Marks do not overlap, so a cut behind one of them leaves every earlier one in
place, and after all cuts the text ends with the first mark. The place of a cut is counted in the lowercase of
the text: it is the place of the mark in the text itself unless a dotted capital I comes before. -/
namespace NodeReclaim.Retry
open Text

/-- What of a text may be quoted: two hundred characters at most, with three dots for the rest. -/
def quotable (text : String) : List Char :=
  if text.length ≤ 200 then text.toList else text.toList.take 200 ++ "...".toList

theorem shortened_eq (text : String) : shortened text.toList = quotable text := by
  unfold shortened quotable maxTextLength
  rw [String.length_toList]
  by_cases h : text.length ≤ 200
  · rw [if_pos h, if_neg (Nat.not_lt.2 h)]
  · rw [if_neg h, if_pos (Nat.lt_of_not_le h)]

/-- The first place of a text where a mark stands, with that mark. -/
structure FirstMark (u : List Char) (i : Nat) (mark : String) : Prop where
  known : mark ∈ credentialMarks
  stands : StandsAt mark.toList u i
  least : ∀ j < i, ∀ m ∈ credentialMarks, ¬ StandsAt m.toList u j

/-- A text without marks stays whole; of any other one nothing is left after the first mark. -/
structure Hides (u result : List Char) : Prop where
  whole : (∀ i, ∀ mark ∈ credentialMarks, ¬ StandsAt mark.toList u i) → result = u
  cut : ∀ i mark, FirstMark u i mark → result = u.take i ++ mark.toList ++ "***".toList

/-! ### Marks -/

theorem isPlain_mark {m : String} (hm : m ∈ credentialMarks) : IsPlain m.toList := by
  have plain : ∀ m ∈ credentialMarks, m.toList ≠ [] ∧ 'σ' ∉ m.toList ∧ 'ς' ∉ m.toList ∧
      '\u0307' ∉ m.toList ∧ m.toList.getLast? ≠ some 'i' := by decide
  obtain ⟨nonempty, sigma, finalSigma, dot, last⟩ := plain m hm
  exact ⟨nonempty, sigma, finalSigma, dot, last⟩

theorem marks_apart : ∀ m ∈ credentialMarks, ∀ mark ∈ credentialMarks, ∀ d < m.toList.length,
    m.toList.drop d <+: mark.toList ∨ mark.toList <+: m.toList.drop d → d = 0 ∧ m = mark := by
  decide +kernel

theorem eq_of_suffix : ∀ m ∈ credentialMarks, ∀ mark ∈ credentialMarks, m.toList <:+ mark.toList → m = mark := by
  decide +kernel

theorem folded_mark : ∀ mark ∈ credentialMarks, folded mark.toList = mark.toList := by decide +kernel

theorem not_prefix_stars {m : String} (hm : m ∈ credentialMarks) (k : Nat) :
    ¬ m.toList <+: (folded "***".toList).drop k := by
  have clear : ∀ m ∈ credentialMarks, '*' ∉ m.toList := by decide
  intro found
  have stars : folded "***".toList = "***".toList := by decide
  obtain ⟨c, rest, hc⟩ := List.exists_cons_of_ne_nil (isPlain_mark hm).nonempty
  rw [hc, stars] at found
  have star : c ∈ "***".toList := List.mem_of_mem_drop (found.subset List.mem_cons_self)
  have same : c = '*' := by simpa using star
  apply clear m hm
  rw [hc, same]
  exact List.mem_cons_self

/-! ### Cuts -/

theorem hideAfter_cases (hm : m ∈ credentialMarks) (v : List Char) :
    (∃ q, m.toList <+: (folded v).drop q ∧ hideAfter v m = v.take q ++ m.toList ++ "***".toList) ∨
      hideAfter v m = v := by
  unfold hideAfter
  split
  next q found =>
    have stands := (find?_eq_some_iff.1 found).1
    exact .inl ⟨q, ((isPlain_mark hm).prefix_drop_lower_iff q).1 stands, rfl⟩
  next => exact .inr rfl

structure Opens (a w : List Char) (mark : String) : Prop where
  known : mark ∈ credentialMarks
  reads : folded w = mark.toList
  before : ∀ m ∈ credentialMarks, ∀ q, ¬ m.toList <+: (folded a).drop q

theorem FirstMark.opens (h : FirstMark u i mark) :
    Opens (u.take i) ((u.drop i).take mark.toList.length) mark where
  known := h.known
  reads := (isPlain_mark h.known).lower_eq_iff.1 h.stands
  before := by
    intro m hm q found
    have plain : IsPlain m.toList := isPlain_mark hm
    obtain ⟨j, _, inside, stands⟩ := plain.exists_standsAt found
    have early : j < i := Nat.lt_of_lt_of_le inside (List.length_take_le i u)
    apply h.least j early m hm
    have split : u.drop j = (u.take i).drop j ++ u.drop i := by
      rw [← List.drop_append_of_le_length (Nat.le_of_lt inside), List.take_append_drop]
    rw [plain.standsAt_iff, split, folded_append]
    exact ((plain.standsAt_iff j).1 stands).trans (List.prefix_append _ _)

namespace Opens
variable {a w v : List Char} {mark m : String} (h : Opens a w mark)
include h

theorem place (hv : a ++ w <+: v) (hm : m ∈ credentialMarks) (found : m.toList <+: (folded v).drop q) :
    q = (folded a).length ∧ m = mark ∨ (folded a).length + (folded w).length ≤ q := by
  obtain ⟨r, rfl⟩ := hv
  rw [folded_append, folded_append, List.append_assoc, h.reads] at found
  have first : mark.toList <+: mark.toList ++ folded r := List.prefix_append _ _
  rcases Nat.lt_or_ge q (folded a).length with early | late
  · rw [List.drop_append_of_le_length (Nat.le_of_lt early)] at found
    -- Either the mark ends before the first one starts, or the rest of it meets the first one.
    rcases List.prefix_or_prefix_of_prefix found (List.prefix_append _ _) with inside | ⟨rest, across⟩
    · exact absurd inside (h.before m hm q)
    · have left : m.toList.drop ((folded a).drop q).length = rest := by rw [← across, List.drop_left]
      rw [← across, List.prefix_append_right_inj] at found
      have more : ((folded a).drop q).length < m.toList.length := by
        rw [← across, List.length_append]
        apply Nat.lt_add_of_pos_right
        apply List.length_pos_iff.2
        rintro rfl
        rw [List.append_nil] at across
        exact h.before m hm q (across ▸ List.prefix_refl _)
      obtain ⟨none, _⟩ := marks_apart m hm mark h.known _ more
        (left ▸ List.prefix_or_prefix_of_prefix found first)
      rw [List.length_drop] at none
      omega
  · obtain ⟨k, rfl⟩ := Nat.exists_eq_add_of_le late
    rw [List.drop_append, List.drop_of_length_le late, List.nil_append, Nat.add_sub_cancel_left] at found
    rcases Nat.lt_or_ge k mark.toList.length with within | beyond
    · rw [List.drop_append_of_le_length (Nat.le_of_lt within)] at found
      obtain ⟨rfl, rfl⟩ := marks_apart mark h.known m hm k within
        (List.prefix_or_prefix_of_prefix (List.prefix_append _ _) found)
      exact .inl ⟨rfl, rfl⟩
    · rw [h.reads]
      exact .inr (Nat.add_le_add_left beyond _)

theorem other (hv : a ++ w <+: v) (hm : m ∈ credentialMarks) (hne : m ≠ mark) :
    a ++ w <+: hideAfter v m := by
  rcases hideAfter_cases hm v with ⟨q, found, hidden⟩ | same
  · have later : (folded a).length + (folded w).length ≤ q :=
      (h.place hv hm found).resolve_left fun same => hne same.2
    have kept : (a ++ w).length ≤ q := by
      rw [List.length_append]
      exact Nat.le_trans (Nat.add_le_add (length_le_folded a) (length_le_folded w)) later
    rw [hidden, List.append_assoc]
    exact (List.prefix_take_iff.2 ⟨hv, kept⟩).trans (List.prefix_append _ _)
  · rw [same]
    exact hv

/-- The cut behind the first mark is made where the mark stands in the lowercase of the text. -/
theorem first (hv : a ++ w <+: v) :
    hideAfter v mark = v.take (folded a).length ++ mark.toList ++ "***".toList := by
  have plain : IsPlain mark.toList := isPlain_mark h.known
  have found : find? mark.toList (lower v) = some (folded a).length := by
    apply find?_eq_some_iff.2
    constructor
    · obtain ⟨r, rfl⟩ := hv
      rw [plain.prefix_drop_lower_iff, folded_append, folded_append, List.append_assoc, List.drop_left,
        h.reads]
      exact List.prefix_append _ _
    · intro q hq earlier
      rcases h.place hv h.known ((plain.prefix_drop_lower_iff q).1 earlier) with ⟨same, _⟩ | later <;> omega
  rw [hideAfter, found]

theorem settled (still : (folded a).length = a.length) (hm : m ∈ credentialMarks) :
    hideAfter (a ++ mark.toList ++ "***".toList) m = a ++ mark.toList ++ "***".toList := by
  have written : Opens a mark.toList mark := ⟨h.known, folded_mark mark h.known, h.before⟩
  rcases hideAfter_cases hm (a ++ mark.toList ++ "***".toList) with ⟨q, found, hidden⟩ | same
  · rcases written.place (List.prefix_append _ _) hm found with ⟨rfl, rfl⟩ | later
    · rw [hidden, still, List.append_assoc a, List.take_left, List.append_assoc]
    · obtain ⟨k, rfl⟩ := Nat.exists_eq_add_of_le later
      rw [folded_append, folded_append, ← List.drop_drop, ← List.length_append, List.drop_left] at found
      exact absurd found (not_prefix_stars hm k)
  · exact same

/-- With a dotted capital I before the first mark, the cut behind that mark leaves too much. -/
theorem first_ne (dotted : 'İ' ∈ a) (hv : a ++ w <+: v) :
    hideAfter v mark ≠ a ++ mark.toList ++ "***".toList := by
  intro same
  have grown : a.length < (folded a).length :=
    Nat.lt_of_le_of_ne (length_le_folded a) fun still => (length_folded_iff a).1 still.symm dotted
  have letters : w ≠ [] := by
    rintro rfl
    exact (isPlain_mark h.known).nonempty h.reads.symm
  have long : a.length < v.length := by
    apply Nat.lt_of_lt_of_le _ hv.length_le
    rw [List.length_append]
    exact Nat.lt_add_of_pos_right (List.length_pos_iff.2 letters)
  have lengths := congrArg List.length same
  rw [h.first hv] at lengths
  simp only [List.length_append, List.length_take] at lengths
  omega

theorem other_ne (hm : m ∈ credentialMarks) (hne : m ≠ mark)
    (hv : v ≠ a ++ mark.toList ++ "***".toList) : hideAfter v m ≠ a ++ mark.toList ++ "***".toList := by
  rcases hideAfter_cases hm v with ⟨q, found, hidden⟩ | same
  · rw [hidden]
    intro same
    have ends : v.take q ++ m.toList = a ++ mark.toList := List.append_cancel_right same
    have last : m.toList <:+ a ++ mark.toList := ends ▸ List.suffix_append _ _
    rcases List.suffix_or_suffix_of_suffix last (List.suffix_append _ _) with shorter | longer
    · exact hne (eq_of_suffix m hm mark h.known shorter)
    · exact hne (eq_of_suffix mark h.known m hm longer).symm
  · rw [same]
    exact hv

/-- After the cuts behind all marks the text ends with the first one, unless a dotted capital I comes before. -/
theorem foldl_hideAfter_iff (hu : a ++ w <+: u) :
    credentialMarks.foldl hideAfter u = a ++ mark.toList ++ "***".toList ↔ 'İ' ∉ a := by
  have once : credentialMarks.Nodup := by decide
  obtain ⟨earlier, later, split⟩ := List.append_of_mem h.known
  rw [split] at once
  obtain ⟨_, behind, ahead⟩ := List.nodup_append.1 once
  have hearlier : ∀ m ∈ earlier, m ∈ credentialMarks ∧ m ≠ mark := by
    intro m hm
    rw [split]
    exact ⟨List.mem_append_left _ hm, ahead m hm mark List.mem_cons_self⟩
  have hlater : ∀ m ∈ later, m ∈ credentialMarks ∧ m ≠ mark := by
    intro m hm
    rw [split]
    refine ⟨List.mem_append_right _ (List.mem_cons_of_mem _ hm), ?_⟩
    rintro rfl
    exact (List.nodup_cons.1 behind).1 hm
  rw [split, List.foldl_append, List.foldl_cons]
  have opened : a ++ w <+: earlier.foldl hideAfter u :=
    List.foldlRecOn earlier hideAfter hu fun v hv m hm => h.other hv (hearlier m hm).1 (hearlier m hm).2
  let target := a ++ mark.toList ++ "***".toList
  by_cases dotted : 'İ' ∈ a
  · refine iff_of_false ?_ (not_not_intro dotted)
    exact List.foldlRecOn (motive := fun v => v ≠ target) later hideAfter (h.first_ne dotted opened)
      fun v hv m hm => h.other_ne (hlater m hm).1 (hlater m hm).2 hv
  · refine iff_of_true ?_ dotted
    have still : (folded a).length = a.length := (length_folded_iff a).2 dotted
    have cut : hideAfter (earlier.foldl hideAfter u) mark = target := by
      obtain ⟨r, hr⟩ := opened
      rw [h.first ⟨r, hr⟩, still, ← hr, List.append_assoc a, List.take_left]
    refine List.foldlRecOn (motive := fun v => v = target) later hideAfter cut fun v hv m hm => ?_
    rw [hv]
    exact h.settled still (hlater m hm).1

end Opens

theorem masked_eq (text : String) :
    (masked text).toList = credentialMarks.foldl hideAfter (quotable text) := by
  rw [masked, shortened_eq, String.toList_ofList]

theorem foldl_hideAfter_of_absent (absent : ∀ i, ∀ m ∈ credentialMarks, ¬ StandsAt m.toList u i) :
    credentialMarks.foldl hideAfter u = u := by
  refine List.foldlRecOn (motive := fun v => v = u) credentialMarks hideAfter rfl fun v hv m hm => ?_
  rw [hv]
  rcases hideAfter_cases hm u with ⟨q, found, _⟩ | same
  · obtain ⟨i, _, _, stands⟩ := (isPlain_mark hm).exists_standsAt found
    exact absurd stands (absent i m hm)
  · exact same

/-- A masked text hides what follows the first mark exactly if no dotted capital I comes before that mark. -/
theorem masked_hides_iff (text : String) :
    Hides (quotable text) (masked text).toList ↔
      ∀ i mark, FirstMark (quotable text) i mark → 'İ' ∉ (quotable text).take i := by
  rw [masked_eq]
  have cut {i mark} (h : FirstMark (quotable text) i mark) :
      credentialMarks.foldl hideAfter (quotable text) =
        (quotable text).take i ++ mark.toList ++ "***".toList ↔ 'İ' ∉ (quotable text).take i := by
    apply h.opens.foldl_hideAfter_iff
    rw [← List.take_add]
    exact List.take_prefix _ _
  constructor
  · intro hides i mark h
    exact (cut h).1 (hides.cut i mark h)
  · intro plain
    exact ⟨foldl_hideAfter_of_absent, fun i mark h => (cut h).2 (plain i mark h)⟩

/-- Fourteen dotted capitals move the cut to the end of the text. -/
def dottedText : String := "İİİİİİİİİİİİİİsecret=hunter2"

theorem dotted_text_not_hidden : ¬ Hides (quotable dottedText) (masked dottedText).toList := by
  intro hides
  have first : FirstMark (quotable dottedText) 14 "secret=" :=
    ⟨by decide, by decide, by decide +kernel⟩
  exact absurd (hides.cut 14 "secret=" first) (by decide +kernel)

end NodeReclaim.Retry
