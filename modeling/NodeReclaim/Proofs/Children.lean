import NodeReclaim.Proofs.Paths
import NodeReclaim.Proofs.PublicIps

/-! Paths that go on. A path is read by its nonempty pieces, so a slash with nothing beside it makes no
difference, and whatever is read from a path is one of its pieces. A path with the word for the provider in it
keeps its group and its name however it goes on, so what belongs to a resource leads to that resource. The path
of a bare group has no such word, and its name is lost with the next piece. -/
namespace NodeReclaim.Reference
open Text

def pieces (path : String) : List (List Char) := (path.toList.splitOn '/').filter (· ≠ [])

theorem segments_eq (path : String) : segments path = pieces path := by
  rw [segments, pieces, splitAt_eq_splitOn]
  apply List.filter_congr
  intro s _
  cases s <;> rfl

theorem group_create (path : String) : (create path).group = (groupOf (pieces path)).map String.ofList := by
  rw [create, segments_eq]

theorem name_create (path : String) : (create path).name = (nameOf (pieces path)).map String.ofList := by
  rw [create, segments_eq]

theorem pieces_append (s t : String) : pieces (s ++ "/" ++ t) = pieces s ++ pieces t := by
  have joined : (s ++ "/" ++ t).toList = s.toList ++ '/' :: t.toList := by simp
  rw [pieces, joined, List.splitOn_append_cons_self, List.filter_append]
  rfl

theorem pieces_empty : pieces "" = [] := by decide

theorem pieces_leading (t : String) : pieces ("/" ++ t) = pieces t := by
  have split := pieces_append "" t
  rwa [String.empty_append, pieces_empty, List.nil_append] at split

theorem pieces_trailing (s : String) : pieces (s ++ "/") = pieces s := by
  have split := pieces_append s ""
  rwa [String.append_empty, pieces_empty, List.append_nil] at split

theorem pieces_doubled (s t : String) : pieces (s ++ "//" ++ t) = pieces (s ++ "/" ++ t) := by
  have two : "//" = "/" ++ "/" := by decide
  have split : s ++ "//" ++ t = s ++ "/" ++ ("/" ++ t) := by simp only [two, String.append_assoc]
  rw [split, pieces_append, pieces_append, pieces_leading]

theorem whole_of_mem_pieces (h : s ∈ pieces path) : s ≠ [] ∧ '/' ∉ s := by
  obtain ⟨cut, filled⟩ := List.mem_filter.1 h
  rw [← splitAt_eq_splitOn] at cut
  exact ⟨of_decide_eq_true filled, not_mem_of_mem_splitAt cut⟩

/-! ### What is read is a piece -/

theorem mem_of_groupOf (h : groupOf path = some s) : s ∈ path := by
  obtain ⟨i, _, found⟩ := Option.bind_eq_some_iff.1 h
  exact List.mem_of_getElem? found

theorem mem_of_nameOf (h : nameOf path = some s) : s ∈ path := by
  unfold nameOf at h
  split at h
  next => exact List.mem_of_getElem? h
  next =>
    obtain ⟨i, _, found⟩ := Option.bind_eq_some_iff.1 h
    split at found
    next => exact mem_of_groupOf found
    next => cases found

theorem mem_pieces_of_create (h : (create path).group = some part ∨ (create path).name = some part) :
    part.toList ∈ pieces path := by
  rw [group_create, name_create] at h
  rcases h with h | h
  · obtain ⟨s, found, rfl⟩ := Option.map_eq_some_iff.1 h
    rw [String.toList_ofList]
    exact mem_of_groupOf found
  · obtain ⟨s, found, rfl⟩ := Option.map_eq_some_iff.1 h
    rw [String.toList_ofList]
    exact mem_of_nameOf found

/-! ### Paths with more pieces -/

theorem place_eq_iff {r : Reference} {g n : Option String} : r.place = (g, n) ↔ r.group = g ∧ r.name = n := by
  rw [place, Prod.mk.injEq]

theorem place_of_pieces (h : pieces s = pieces t) : (create s).place = (create t).place := by
  rw [place, place, group_create, group_create, name_create, name_create, h]

theorem getElem?_append_of_some {path : List (List Char)} {i : Nat} (h : path[i]? = some s) (more : List (List Char)) :
    (path ++ more)[i]? = some s := by
  obtain ⟨inside, _⟩ := List.getElem?_eq_some_iff.1 h
  rw [List.getElem?_append_left inside, h]

theorem keyword?_append (h : keyword? word path = some i) (more : List (List Char)) :
    keyword? word (path ++ more) = some i := by
  unfold keyword? List.idxOf? at h ⊢
  rw [List.map_append, List.findIdx?_append, h]
  rfl

theorem keyword?_isSome_iff : (keyword? word path).isSome ↔ ∃ s ∈ path, lower s = word.toList := by
  rw [keyword?, List.isSome_idxOf?, List.mem_map]

theorem groupOf_append (h : groupOf path = some s) (more : List (List Char)) :
    groupOf (path ++ more) = some s := by
  obtain ⟨i, first, found⟩ := Option.bind_eq_some_iff.1 h
  rw [groupOf, keyword?_append first]
  exact getElem?_append_of_some found more

theorem nameOf_append (hp : keyword? "providers" path = some i) (h : nameOf path = some s)
    (more : List (List Char)) : nameOf (path ++ more) = some s := by
  rw [nameOf, hp] at h
  rw [nameOf, keyword?_append hp]
  exact getElem?_append_of_some h more

/-- Without the word for the provider a path has a name only as long as it ends with its group. -/
theorem nameOf_append_of_bare (hp : keyword? "providers" (path ++ more) = none) (some : more ≠ [])
    (h : (nameOf path).isSome) : nameOf (path ++ more) = none := by
  have bare : keyword? "providers" path = none := by
    cases first : keyword? "providers" path with
    | none => rfl
    | some i => cases hp.symm.trans (keyword?_append first more)
  obtain ⟨s, hs⟩ := Option.isSome_iff_exists.1 h
  rw [nameOf, bare] at hs
  obtain ⟨i, first, found⟩ := Option.bind_eq_some_iff.1 hs
  have last : path.length = i + 2 := by
    by_contra further
    rw [if_neg further] at found
    cases found
  have longer : (path ++ more).length ≠ i + 2 := by
    have added := List.length_pos_iff.2 some
    rw [List.length_append]
    omega
  rw [nameOf, hp]
  dsimp only
  rw [keyword?_append first, Option.bind_some, if_neg longer]

theorem place_append (hg : (create s).group.isSome) (hn : (create s).name.isSome)
    (hp : (keyword? "providers" (pieces s)).isSome) (t : String) :
    (create (s ++ "/" ++ t)).place = (create s).place := by
  rw [group_create, Option.isSome_map] at hg
  rw [name_create, Option.isSome_map] at hn
  obtain ⟨group, hg⟩ := Option.isSome_iff_exists.1 hg
  obtain ⟨name, hn⟩ := Option.isSome_iff_exists.1 hn
  obtain ⟨i, hp⟩ := Option.isSome_iff_exists.1 hp
  rw [place, place, group_create, group_create, name_create, name_create, pieces_append,
    groupOf_append hg, nameOf_append hp hn, hg, hn]

/-- A piece that is no keyword takes the name from the path of a bare group. -/
theorem name_append_of_bare (hn : (create s).name.isSome) (hp : ¬ (keyword? "providers" (pieces s)).isSome) :
    (create (s ++ "/" ++ "x")).name = none := by
  rw [name_create, Option.isSome_map] at hn
  have piece : pieces "x" = [['x']] := by decide
  have bare : keyword? "providers" (pieces s ++ [['x']]) = none := by
    rw [← Option.not_isSome_iff_eq_none]
    rw [keyword?_isSome_iff] at hp ⊢
    rintro ⟨u, hu, reads⟩
    rcases List.mem_append.1 hu with hu | hu
    · exact hp ⟨u, hu, reads⟩
    · rw [List.mem_singleton.1 hu] at reads
      exact absurd reads (by decide)
  rw [name_create, pieces_append, piece, nameOf_append_of_bare bare (List.cons_ne_nil _ _) hn]
  rfl

/-- What is read from a path depends on its nonempty pieces only and is among them. Once both parts are there,
they stay however the path goes on exactly if the word for the provider is in it. -/
theorem parts_stable (s : String) :
    (create s).id = s ∧
    (∀ t, pieces t = pieces s → (create t).place = (create s).place) ∧
    ((create ("/" ++ s)).place = (create s).place ∧ (create (s ++ "/")).place = (create s).place ∧
      ∀ t, (create (s ++ "//" ++ t)).place = (create (s ++ "/" ++ t)).place) ∧
    (∀ part, (create s).group = some part ∨ (create s).name = some part →
      part.toList ∈ pieces s ∧ part ≠ "" ∧ '/' ∉ part.toList) ∧
    ((create s).group.isSome → (create s).name.isSome →
      ((∃ piece ∈ pieces s, lower piece = "providers".toList) ↔
        ∀ t, (create (s ++ "/" ++ t)).place = (create s).place)) := by
  refine ⟨rfl, fun t => place_of_pieces, ⟨place_of_pieces (pieces_leading s),
    place_of_pieces (pieces_trailing s), fun t => place_of_pieces (pieces_doubled s t)⟩, ?_, ?_⟩
  · intro part h
    have piece := mem_pieces_of_create h
    obtain ⟨filled, whole⟩ := whole_of_mem_pieces piece
    exact ⟨piece, mt String.toList_eq_nil_iff.2 filled, whole⟩
  · intro hg hn
    rw [← keyword?_isSome_iff]
    constructor
    · exact place_append hg hn
    · intro kept
      by_contra bare
      have lost := name_append_of_bare hn bare
      obtain ⟨_, same⟩ := place_eq_iff.1 (kept "x")
      rw [← same, lost] at hn
      cases hn

def interfacePath : String :=
  "/subscriptions/sub/resourceGroups/rg1/providers/Microsoft.Network/networkInterfaces/nic1"

theorem configuration_leads_to_interface :
    (create interfacePath).place = (some "rg1", some "nic1") ∧
      (create (interfacePath ++ "/" ++ "ipConfigurations/ipconfig1")).place = (some "rg1", some "nic1") := by
  have placed : (create interfacePath).place = (some "rg1", some "nic1") := by decide +kernel
  obtain ⟨group, name⟩ := place_eq_iff.1 placed
  have word : "providers".toList ∈ pieces interfacePath := by decide +kernel
  obtain ⟨_, _, _, _, stays⟩ := parts_stable interfacePath
  rw [group, name] at stays
  exact ⟨placed, ((stays rfl rfl).1 ⟨_, word, by decide⟩ _).trans placed⟩

end NodeReclaim.Reference
