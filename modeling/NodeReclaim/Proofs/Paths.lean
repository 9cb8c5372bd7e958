import NodeReclaim.Identifier.Reference
import NodeReclaim.Proofs.Texts

/-! Resource paths and what is read from them. A path falls into its own segments again, and a keyword is the
first segment that reads so. The group's segment stands before the word for the provider, so a group may be
taken for that word; nothing else may. -/
namespace NodeReclaim.Reference
open Text

structure Segment where
  text : String
  nonempty : text ≠ ""
  whole : '/' ∉ text.toList

namespace Segment

def chars (s : Segment) : List Char := s.text.toList

/-- The segment is a keyword, in whatever case it is written. -/
def Reads (s : Segment) (word : String) : Prop := lower s.chars = word.toList

instance (s : Segment) (word : String) : Decidable (s.Reads word) :=
  inferInstanceAs (Decidable (lower s.chars = word.toList))

theorem Reads.unique {s : Segment} (h : s.Reads word) (h' : s.Reads word') : word = word' :=
  String.toList_inj.1 (h.symm.trans h')

theorem chars_ne_nil (s : Segment) : s.chars ≠ [] := mt String.toList_eq_nil_iff.1 s.nonempty

end Segment

def written (parts : List Segment) : String := "/" ++ "/".intercalate (parts.map Segment.text)

theorem segments_written {parts : List Segment} (h : parts ≠ []) :
    segments (written parts) = parts.map Segment.chars := by
  have whole : ∀ s ∈ parts.map Segment.chars, '/' ∉ s := by
    intro s hs
    obtain ⟨part, _, rfl⟩ := List.mem_map.1 hs
    exact part.whole
  have pieces : splitAt '/' (written parts).toList = [] :: parts.map Segment.chars := by
    rw [splitAt_eq_splitOn, written, String.toList_append, String.toList_intercalate, List.map_map]
    change ([] ++ '/' :: _).splitOn '/' = _
    rw [List.splitOn_append_cons_self_of_not_mem (List.not_mem_nil)]
    exact congrArg _ (List.splitOn_intercalate '/' whole (mt List.map_eq_nil_iff.1 h))
  rw [segments, pieces, List.filter_cons_of_neg (by simp)]
  apply List.filter_eq_self.2
  intro s hs
  obtain ⟨part, _, rfl⟩ := List.mem_map.1 hs
  simp [part.chars_ne_nil]

theorem keyword?_of_reads {s : Segment} (h : s.Reads word) (path : List (List Char)) :
    keyword? word (s.chars :: path) = some 0 := by
  unfold Segment.Reads at h
  simp [keyword?, List.idxOf?_cons, h]

theorem keyword?_of_not_reads {s : Segment} (h : ¬ s.Reads word) (path : List (List Char)) :
    keyword? word (s.chars :: path) = (keyword? word path).map (· + 1) := by
  unfold Segment.Reads at h
  simp [keyword?, List.idxOf?_cons, h]

/-- The path of a resource in a group, with the children of the resource. -/
structure ResourcePath where
  subscription : Segment
  groupsWord : Segment
  group : Segment
  providersWord : Segment
  provider : Segment
  type : Segment
  name : Segment
  children : List Segment
  subscription_not_groups : ¬ subscription.Reads "resourcegroups"
  subscription_not_providers : ¬ subscription.Reads "providers"
  groupsWord_reads : groupsWord.Reads "resourcegroups"
  providersWord_reads : providersWord.Reads "providers"

namespace ResourcePath

def subscriptions : Segment := ⟨"subscriptions", by decide, by decide⟩

def parts (p : ResourcePath) : List Segment :=
  [subscriptions, p.subscription, p.groupsWord, p.group, p.providersWord, p.provider, p.type, p.name] ++ p.children

def segments (p : ResourcePath) : List (List Char) := p.parts.map Segment.chars

variable (p : ResourcePath)

theorem keyword?_groups : keyword? "resourcegroups" p.segments = some 2 := by
  have first : ¬ subscriptions.Reads "resourcegroups" := by decide
  change keyword? _ (subscriptions.chars :: p.subscription.chars :: p.groupsWord.chars :: _) = _
  rw [keyword?_of_not_reads first, keyword?_of_not_reads p.subscription_not_groups,
    keyword?_of_reads p.groupsWord_reads]
  rfl

theorem keyword?_providers :
    keyword? "providers" p.segments = some (if p.group.Reads "providers" then 3 else 4) := by
  have first : ¬ subscriptions.Reads "providers" := by decide
  have third : ¬ p.groupsWord.Reads "providers" := fun h =>
    absurd (h.unique p.groupsWord_reads) (by decide)
  change keyword? _ (subscriptions.chars :: p.subscription.chars :: p.groupsWord.chars :: p.group.chars ::
    p.providersWord.chars :: _) = _
  rw [keyword?_of_not_reads first, keyword?_of_not_reads p.subscription_not_providers,
    keyword?_of_not_reads third]
  by_cases h : p.group.Reads "providers"
  · rw [keyword?_of_reads h, if_pos h]
    rfl
  · rw [keyword?_of_not_reads h, keyword?_of_reads p.providersWord_reads, if_neg h]
    rfl

theorem groupOf_segments : groupOf p.segments = some p.group.chars := by
  rw [groupOf, keyword?_groups]
  rfl

theorem nameOf_segments :
    nameOf p.segments = some (if p.group.Reads "providers" then p.type.chars else p.name.chars) := by
  rw [nameOf, keyword?_providers]
  by_cases h : p.group.Reads "providers"
  · rw [if_pos h, if_pos h]
    rfl
  · rw [if_neg h, if_neg h]
    rfl

theorem create_written :
    create (written p.parts) =
      ⟨written p.parts, some p.group.text, some (if p.group.Reads "providers" then p.type.text else p.name.text)⟩ := by
  have path : Reference.segments (written p.parts) = p.segments := segments_written (List.cons_ne_nil _ _)
  rw [create, path, groupOf_segments, nameOf_segments]
  split <;> simp [Segment.chars]

/-- The group is always read as it is written, the name unless the group reads like the word for the provider. -/
theorem parts_recovered_iff :
    (create (written p.parts)).group = some p.group.text ∧
      ((create (written p.parts)).name = some p.name.text ↔
        ¬ p.group.Reads "providers" ∨ p.type.text = p.name.text) := by
  rw [create_written]
  refine ⟨rfl, ?_⟩
  split <;> simp [*]

def namesake : ResourcePath where
  subscription := ⟨"s", by decide, by decide⟩
  groupsWord := ⟨"resourceGroups", by decide, by decide⟩
  group := ⟨"providers", by decide, by decide⟩
  providersWord := ⟨"providers", by decide, by decide⟩
  provider := ⟨"Microsoft.Compute", by decide, by decide⟩
  type := ⟨"disks", by decide, by decide⟩
  name := ⟨"data", by decide, by decide⟩
  children := []
  subscription_not_groups := by decide
  subscription_not_providers := by decide
  groupsWord_reads := by decide
  providersWord_reads := by decide

theorem namesake_not_recovered :
    written namesake.parts = "/subscriptions/s/resourceGroups/providers/providers/Microsoft.Compute/disks/data" ∧
      ¬ ((create (written namesake.parts)).group = some namesake.group.text ∧
        (create (written namesake.parts)).name = some namesake.name.text) := by
  decide +kernel

end ResourcePath

end NodeReclaim.Reference
