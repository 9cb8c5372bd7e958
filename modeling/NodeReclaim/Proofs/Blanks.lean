import Mathlib.Data.List.DropRight
import NodeReclaim.Text.Blank

/-! Trimmed texts. A text is blanks, then a part whose ends are not blank, then blanks, and trimming leaves
that part. So blanks around a text make no difference to it. -/
namespace NodeReclaim.Text

def AllBlank (s : List Char) : Prop := ∀ c ∈ s, isBlank c = true

structure IsTight (s : List Char) : Prop where
  first : ∀ c ∈ s.head?, isBlank c = false
  last : ∀ c ∈ s.getLast?, isBlank c = false

theorem allBlank_nil : AllBlank [] := List.forall_mem_nil _

theorem trimEnd_eq (s : List Char) : trimEnd s = s.rdropWhile isBlank := rfl

theorem exists_margins (s : List Char) :
    ∃ before after, AllBlank before ∧ AllBlank after ∧ s = before ++ trim s ++ after := by
  refine ⟨s.takeWhile isBlank, (trimStart s).rtakeWhile isBlank, fun c hc => List.mem_takeWhile_imp hc,
    fun c hc => List.mem_rtakeWhile_imp hc, ?_⟩
  rw [List.append_assoc, trim, trimEnd_eq, List.rdropWhile_append_rtakeWhile]
  exact List.takeWhile_append_dropWhile.symm

theorem isTight_trim (s : List Char) : IsTight (trim s) where
  first := by
    intro c hc
    have start : trim s <+: trimStart s := List.rdropWhile_prefix isBlank _
    have first : (trimStart s).head? = some c := by
      obtain ⟨after, h⟩ := start
      rw [← h, List.head?_append, Option.mem_def.1 hc]
      rfl
    have stopped := List.head?_dropWhile_not isBlank s
    rw [trimStart] at first
    rw [first] at stopped
    exact stopped
  last := by
    intro c hc
    obtain ⟨nonempty, rfl⟩ := List.mem_getLast?_eq_getLast hc
    exact Bool.eq_false_iff.2 (List.rdropWhile_last_not isBlank (trimStart s) nonempty)

theorem trimStart_of_first {s : List Char} (h : ∀ c ∈ s.head?, isBlank c = false) : trimStart s = s := by
  cases s with
  | nil => rfl
  | cons c s => exact List.dropWhile_cons_of_neg (Bool.eq_false_iff.1 (h c rfl))

theorem trimEnd_of_last {s : List Char} (h : ∀ c ∈ s.getLast?, isBlank c = false) : trimEnd s = s := by
  have reversed : trimStart s.reverse = s.reverse := trimStart_of_first (by rwa [List.head?_reverse])
  exact (congrArg List.reverse reversed).trans (List.reverse_reverse s)

theorem trimStart_append {before : List Char} (h : AllBlank before) (s : List Char) :
    trimStart (before ++ s) = trimStart s :=
  List.dropWhile_append_of_pos h

theorem trimEnd_append {after : List Char} (h : AllBlank after) (s : List Char) :
    trimEnd (s ++ after) = trimEnd s := by
  have reversed : AllBlank after.reverse := fun c hc => h c (List.mem_reverse.1 hc)
  have dropped := trimStart_append reversed s.reverse
  rw [← List.reverse_append] at dropped
  exact congrArg List.reverse dropped

/-- Trimming finds the part without blanks at its ends. -/
theorem trim_of_tight {before t after : List Char} (hb : AllBlank before) (ht : IsTight t)
    (ha : AllBlank after) : trim (before ++ t ++ after) = t := by
  rw [List.append_assoc, trim, trimStart_append hb]
  cases t with
  | nil =>
    have nothing : trimStart after = [] := List.dropWhile_eq_nil_iff.2 ha
    rw [List.nil_append, nothing]
    rfl
  | cons c t =>
    have kept : trimStart (c :: t ++ after) = c :: t ++ after := trimStart_of_first ht.first
    rw [kept, trimEnd_append ha, trimEnd_of_last ht.last]

theorem trim_margins {before after : List Char} (hb : AllBlank before) (ha : AllBlank after)
    (s : List Char) : trim (before ++ s ++ after) = trim s := by
  obtain ⟨start, rest, hs, hr, split⟩ := exists_margins s
  have regrouped : before ++ (start ++ trim s ++ rest) ++ after =
      (before ++ start) ++ trim s ++ (rest ++ after) := by
    simp only [List.append_assoc]
  have wider : AllBlank (before ++ start) ∧ AllBlank (rest ++ after) :=
    ⟨List.forall_mem_append.2 ⟨hb, hs⟩, List.forall_mem_append.2 ⟨hr, ha⟩⟩
  rw [← split] at regrouped
  rw [regrouped]
  exact trim_of_tight wider.1 (isTight_trim s) wider.2

theorem trim_eq_self_iff (s : List Char) : trim s = s ↔ IsTight s := by
  constructor
  · intro h
    exact h ▸ isTight_trim s
  · intro h
    rw [trim, trimStart_of_first h.first, trimEnd_of_last h.last]

theorem trim_trim (s : List Char) : trim (trim s) = trim s := (trim_eq_self_iff _).2 (isTight_trim s)

end NodeReclaim.Text
