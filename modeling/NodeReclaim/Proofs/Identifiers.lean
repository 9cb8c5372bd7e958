import NodeReclaim.Identifier.Node
import NodeReclaim.Proofs.Blanks
import NodeReclaim.Proofs.Texts

/-! The grammar of compound identifiers. A text is one exactly if it has a single slash with something besides
blanks on each side. The trimmed sides are its parts, so an identifier that was read is read from its own text
again, and one that was made of two parts is read back as it is unless there are blanks around a part. -/
namespace NodeReclaim

namespace NodeId
open Text

def trimmed (s : String) : String := String.ofList (trim s.toList)

/-- A single slash, and something besides blanks on each side of it. -/
structure IsIdentifier (s : List Char) : Prop where
  once : s.count '/' = 1
  filled : ∀ side ∈ s.splitOn '/', trim side ≠ []

/-- A text that can be a part of an identifier. -/
structure IsPart (s : List Char) : Prop where
  filled : trim s ≠ []
  whole : '/' ∉ s

/-- Why two texts are not the parts of an identifier: what is missing comes before what is too much. -/
inductive RefusesParts (group name : List Char) : IdentifierError → Prop
  | emptyGroup (blank : trim group = []) : RefusesParts group name .emptyGroup
  | emptyName (filled : trim group ≠ []) (blank : trim name = []) : RefusesParts group name .emptyName
  | slashes (filled : trim group ≠ [] ∧ trim name ≠ []) (slash : '/' ∈ group ∨ '/' ∈ name) :
      RefusesParts group name (.slashes (String.ofList group) (String.ofList name))

/-- Why a text is no identifier. -/
inductive Refuses (s : List Char) : IdentifierError → Prop
  | empty (blank : trim s = []) : Refuses s .empty
  | shape (filled : trim s ≠ []) (slashes : s.count '/' ≠ 1) : Refuses s (.shape (String.ofList (trim s)))
  | parts (sides : s.splitOn '/' = [left, right]) (refused : RefusesParts (trim left) (trim right) e) :
      Refuses s e

/-! ### The constructor -/

theorem isBlankText_iff (s : String) : isBlankText s = true ↔ trim s.toList = [] := List.isEmpty_iff

theorem create_cases (group name : String) :
    (IsPart group.toList ∧ IsPart name.toList ∧ create group name = .ok ⟨group, name⟩) ∨
      ∃ e, RefusesParts group.toList name.toList e ∧ create group name = .error e := by
  unfold create
  split
  next blank => exact .inr ⟨_, .emptyGroup ((isBlankText_iff group).1 blank), rfl⟩
  next filled =>
  rw [isBlankText_iff] at filled
  split
  next blank => exact .inr ⟨_, .emptyName filled ((isBlankText_iff name).1 blank), rfl⟩
  next filled' =>
  rw [isBlankText_iff] at filled'
  split
  next slash =>
    have slash' : '/' ∈ group.toList ∨ '/' ∈ name.toList := by simpa using slash
    have refused := RefusesParts.slashes ⟨filled, filled'⟩ slash'
    rw [String.ofList_toList, String.ofList_toList] at refused
    exact .inr ⟨_, refused, rfl⟩
  next plain =>
    have whole : '/' ∉ group.toList ∧ '/' ∉ name.toList := by simpa using plain
    exact .inl ⟨⟨filled, whole.1⟩, ⟨filled', whole.2⟩, rfl⟩

theorem RefusesParts.not_isPart {group name : List Char} (h : RefusesParts group name e) :
    ¬ (IsPart group ∧ IsPart name) := by
  rintro ⟨hg, hn⟩
  cases h with
  | emptyGroup blank => exact hg.filled blank
  | emptyName _ blank => exact hn.filled blank
  | slashes _ slash => exact slash.elim hg.whole hn.whole

/-! ### The reader -/

theorem slash_not_blank {s : List Char} (h : AllBlank s) : s.count '/' = 0 := by
  apply List.count_eq_zero.2
  intro slash
  have solid : isBlank '/' = false := by decide
  exact Bool.false_ne_true (solid.symm.trans (h '/' slash))

theorem count_trim (s : List Char) : (trim s).count '/' = s.count '/' := by
  obtain ⟨before, after, hb, ha, split⟩ := exists_margins s
  have whole := congrArg (List.count '/') split
  rw [List.count_append, List.count_append, slash_not_blank hb, slash_not_blank ha] at whole
  omega

theorem exists_sides {s : List Char} (h : s.count '/' = 1) : ∃ left right, splitAt '/' s = [left, right] :=
  List.length_eq_two.1 (by rw [length_splitAt, h])

theorem count_of_sides {s : List Char} (h : splitAt '/' s = [left, right]) : s.count '/' = 1 := by
  have counted := length_splitAt '/' s
  rw [h] at counted
  exact (Nat.succ.inj counted).symm

theorem IsPart.trim {s : List Char} (h : IsPart s) : IsPart (trim s) where
  filled := by
    rw [trim_trim]
    exact h.filled
  whole := by
    intro slash
    have counted := count_trim s
    rw [List.count_eq_zero.2 h.whole] at counted
    exact List.count_eq_zero.1 counted slash

theorem isIdentifier_iff {s : List Char} (h : splitAt '/' s = [left, right]) :
    IsIdentifier s ↔ IsPart (trim left) ∧ IsPart (trim right) := by
  obtain ⟨_, hl, hr⟩ := splitAt_pair_iff.1 h
  have sides : s.splitOn '/' = [left, right] := (splitAt_eq_splitOn '/' s).symm.trans h
  constructor
  · intro identifier
    have filled : trim left ≠ [] ∧ trim right ≠ [] := by simpa [sides] using identifier.filled
    exact ⟨IsPart.trim ⟨filled.1, hl⟩, IsPart.trim ⟨filled.2, hr⟩⟩
  · rintro ⟨⟨filled, _⟩, ⟨filled', _⟩⟩
    rw [trim_trim] at filled filled'
    refine ⟨count_of_sides h, ?_⟩
    simpa [sides] using ⟨filled, filled'⟩

theorem trim_sides {s : List Char} (h : splitAt '/' (trim s) = [left, right]) :
    ∃ left' right', splitAt '/' s = [left', right'] ∧ trim left' = trim left ∧ trim right' = trim right := by
  obtain ⟨before, after, hb, ha, split⟩ := exists_margins s
  obtain ⟨joined, hl, hr⟩ := splitAt_pair_iff.1 h
  have outside : '/' ∉ before ∧ '/' ∉ after :=
    ⟨List.count_eq_zero.1 (slash_not_blank hb), List.count_eq_zero.1 (slash_not_blank ha)⟩
  refine ⟨before ++ left, right ++ after, splitAt_pair_iff.2 ⟨?_, ?_, ?_⟩, ?_, ?_⟩
  · rw [split, joined]
    simp
  · simp [outside.1, hl]
  · simp [outside.2, hr]
  · simpa using trim_margins hb allBlank_nil left
  · simpa using trim_margins allBlank_nil ha right

theorem parse_of_sides {s : String} (h : splitAt '/' s.toList = [left, right]) :
    parse s = create (String.ofList (trim left)) (String.ofList (trim right)) := by
  have once : (trim s.toList).count '/' = 1 := (count_trim s.toList).trans (count_of_sides h)
  obtain ⟨left', right', inner⟩ := exists_sides once
  obtain ⟨_, _, outer, hl, hr⟩ := trim_sides inner
  obtain ⟨rfl, rfl⟩ : left = _ ∧ right = _ := by simpa using h.symm.trans outer
  have filled : (trim s.toList).isEmpty = false := by
    rw [Bool.eq_false_iff, Ne, List.isEmpty_iff]
    intro empty
    rw [empty] at once
    cases once
  unfold parse
  dsimp only
  rw [filled, if_neg Bool.false_ne_true, inner, hl, hr]

theorem parse_cases (s : String) :
    (∃ e, s.toList.count '/' ≠ 1 ∧ Refuses s.toList e ∧ parse s = .error e) ∨
      ∃ left right, splitAt '/' s.toList = [left, right] ∧
        parse s = create (String.ofList (trim left)) (String.ofList (trim right)) := by
  by_cases once : s.toList.count '/' = 1
  · obtain ⟨left, right, h⟩ := exists_sides once
    exact .inr ⟨left, right, h, parse_of_sides h⟩
  refine .inl ?_
  unfold parse
  dsimp only
  split
  next blank => exact ⟨_, once, .empty (List.isEmpty_iff.1 blank), rfl⟩
  next filled =>
    rw [List.isEmpty_iff] at filled
    split
    next pair => exact absurd ((count_trim s.toList).symm.trans (count_of_sides pair)) once
    next => exact ⟨_, once, .shape filled once, rfl⟩

theorem parse_encoded {group name : String} (hg : IsPart group.toList) (hn : IsPart name.toList) :
    parse (encoded ⟨group, name⟩) = .ok ⟨trimmed group, trimmed name⟩ := by
  have sides : splitAt '/' (encoded ⟨group, name⟩).toList = [group.toList, name.toList] := by
    apply splitAt_pair_iff.2
    refine ⟨?_, hg.whole, hn.whole⟩
    simp [encoded]
  have part {s : String} (h : IsPart s.toList) : IsPart (trimmed s).toList := by
    rw [trimmed, String.toList_ofList]
    exact h.trim
  rw [parse_of_sides sides]
  obtain ⟨_, _, made⟩ | ⟨e, refused, _⟩ := create_cases (trimmed group) (trimmed name)
  · exact made
  · exact absurd ⟨part hg, part hn⟩ refused.not_isPart

theorem parse_outcome (s : String) :
    (∃ id, parse s = .ok id ∧ IsIdentifier s.toList ∧
      (s.toList.splitOn '/').map trim = [id.group.toList, id.name.toList] ∧ parse id.encoded = .ok id) ∨
      ∃ e, parse s = .error e ∧ ¬ IsIdentifier s.toList ∧ Refuses s.toList e := by
  obtain ⟨e, slashes, refused, result⟩ | ⟨left, right, sides, result⟩ := parse_cases s
  · exact .inr ⟨e, result, fun h => slashes h.once, refused⟩
  have identifier := isIdentifier_iff sides
  rw [splitAt_eq_splitOn] at sides
  obtain ⟨hl, hr, made⟩ | ⟨e, refused, made⟩ :=
    create_cases (String.ofList (trim left)) (String.ofList (trim right))
  · have again := parse_encoded hl hr
    rw [String.toList_ofList] at hl hr
    refine .inl ⟨_, result.trans made, identifier.2 ⟨hl, hr⟩, ?_, ?_⟩
    · simp [sides]
    · simpa [trimmed, trim_trim] using again
  · rw [String.toList_ofList, String.toList_ofList] at refused
    exact .inr ⟨e, result.trans made, fun h => refused.not_isPart (identifier.1 h), .parts sides refused⟩

/-- The texts that are identifiers, the pairs that make one, and what is read back from the text of an identifier. -/
theorem identifiers_read_back :
    (∀ s, match parse s with
      | .ok id => IsIdentifier s.toList ∧
          (s.toList.splitOn '/').map trim = [id.group.toList, id.name.toList] ∧ parse id.encoded = .ok id
      | .error e => ¬ IsIdentifier s.toList ∧ Refuses s.toList e) ∧
    ∀ group name, match create group name with
      | .ok id => id = ⟨group, name⟩ ∧ (IsPart group.toList ∧ IsPart name.toList) ∧
          parse id.encoded = .ok ⟨trimmed group, trimmed name⟩ ∧
          (parse id.encoded = .ok id ↔ IsTight group.toList ∧ IsTight name.toList)
      | .error e => ¬ (IsPart group.toList ∧ IsPart name.toList) ∧
          RefusesParts group.toList name.toList e := by
  constructor
  · intro s
    obtain ⟨id, result, reads⟩ | ⟨e, result, refused⟩ := parse_outcome s
    · rw [result]
      exact reads
    · rw [result]
      exact refused
  · intro group name
    obtain ⟨hg, hn, made⟩ | ⟨e, refused, made⟩ := create_cases group name
    · rw [made]
      refine ⟨rfl, ⟨hg, hn⟩, parse_encoded hg hn, ?_⟩
      rw [parse_encoded hg hn, ← trim_eq_self_iff, ← trim_eq_self_iff]
      simp [trimmed, String.ext_iff]
    · rw [made]
      exact ⟨refused.not_isPart, refused⟩

end NodeId

end NodeReclaim
