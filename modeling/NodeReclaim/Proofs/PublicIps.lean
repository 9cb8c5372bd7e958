import Mathlib.Data.List.Induction
import Mathlib.Data.List.Nodup
import NodeReclaim.Snapshot

/-! Public addresses of an interface. The references of its configurations are listed one after the other, and
one that was listed before is left out. What is told apart is the reference with the text it was read from, so
an address appears as often as there are ways to write it among the configurations. -/
namespace NodeReclaim

def Reference.place (r : Reference) : Option String × Option String := (r.group, r.name)

namespace Interface
variable {κ : Type} [DecidableEq κ]

/-- The public addresses of configurations, as often as they are mentioned. -/
def mentions (cs : List IpConfiguration) : List Reference := cs.filterMap (·.publicIp)

/-- How many configurations stand before the first one that mentions an address with this key. -/
def beforeMention (key : Reference → κ) (k : κ) (cs : List IpConfiguration) : Nat :=
  cs.findIdx fun c => c.publicIp.any (key · == k)

/-- References that list the addresses of an interface, addresses being told apart by their keys. -/
structure ListsOnce (key : Reference → κ) (n : Interface) (refs : List Reference) : Prop where
  distinct : (refs.map key).Nodup
  complete : ∀ c ∈ n.configurations, ∀ r, c.publicIp = some r → key r ∈ refs.map key
  genuine : ∀ r ∈ refs, ∃ c ∈ n.configurations, c.publicIp = some r
  ordered : refs.Pairwise fun a b =>
    beforeMention key (key a) n.configurations < beforeMention key (key b) n.configurations

theorem mem_mentions {cs : List IpConfiguration} : r ∈ mentions cs ↔ ∃ c ∈ cs, c.publicIp = some r :=
  List.mem_filterMap

theorem mem_publicIps {n : Interface} : r ∈ n.publicIps ↔ r ∈ mentions n.configurations :=
  List.mem_eraseDups

theorem eraseDups_concat (as : List Reference) (r : Reference) :
    (as ++ [r]).eraseDups = if r ∈ as then as.eraseDups else as.eraseDups ++ [r] := by
  rw [List.eraseDups_append, List.removeAll]
  by_cases h : r ∈ as <;> simp [h, List.eraseDups_cons]

theorem beforeMention_lt_iff {key : Reference → κ} {k : κ} {cs : List IpConfiguration} :
    beforeMention key k cs < cs.length ↔ ∃ r ∈ mentions cs, key r = k := by
  simp only [beforeMention, List.findIdx_lt_length, Option.any_eq_true, beq_iff_eq, mem_mentions]
  constructor
  · rintro ⟨c, hc, r, hr, hk⟩
    exact ⟨r, ⟨c, hc, hr⟩, hk⟩
  · rintro ⟨r, ⟨c, hc, hr⟩, hk⟩
    exact ⟨c, hc, r, hr, hk⟩

theorem beforeMention_append {key : Reference → κ} {cs : List IpConfiguration} (h : r ∈ mentions cs)
    (more : List IpConfiguration) :
    beforeMention key (key r) (cs ++ more) = beforeMention key (key r) cs :=
  List.findIdx_append.trans (if_pos (beforeMention_lt_iff.2 ⟨r, h, rfl⟩))

theorem length_le_beforeMention {key : Reference → κ} {k : κ} {cs : List IpConfiguration}
    (h : ∀ r ∈ mentions cs, key r ≠ k) (more : List IpConfiguration) :
    cs.length ≤ beforeMention key k (cs ++ more) := by
  have absent : ¬ beforeMention key k cs < cs.length := fun found =>
    have ⟨r, hr, hk⟩ := beforeMention_lt_iff.1 found
    h r hr hk
  rw [beforeMention, List.findIdx_append]
  exact (if_neg absent).symm ▸ Nat.le_add_left _ _

theorem eraseDups_ordered (key : Reference → κ) (cs : List IpConfiguration)
    (same : ∀ a ∈ mentions cs, ∀ b ∈ mentions cs, key a = key b → a = b) :
    (mentions cs).eraseDups.Pairwise fun a b => beforeMention key (key a) cs < beforeMention key (key b) cs := by
  induction cs using List.reverseRecOn with
  | nil => exact .nil
  | append_singleton cs c ih =>
    have split : mentions (cs ++ [c]) = mentions cs ++ mentions [c] := List.filterMap_append
    rw [split] at same ⊢
    have earlier := ih fun a ha b hb => same a (List.mem_append_left _ ha) b (List.mem_append_left _ hb)
    have kept : (mentions cs).eraseDups.Pairwise fun a b =>
        beforeMention key (key a) (cs ++ [c]) < beforeMention key (key b) (cs ++ [c]) := by
      refine earlier.imp_of_mem fun ha hb h => ?_
      rwa [beforeMention_append (List.mem_eraseDups.1 ha), beforeMention_append (List.mem_eraseDups.1 hb)]
    cases hc : c.publicIp with
    | none =>
      have nothing : mentions [c] = [] := by simp [mentions, hc]
      rw [nothing, List.append_nil]
      exact kept
    | some r =>
      have one : mentions [c] = [r] := by simp [mentions, hc]
      rw [one] at same ⊢
      rw [eraseDups_concat]
      split
      next => exact kept
      next new =>
        refine List.pairwise_append.2 ⟨kept, List.pairwise_singleton _ _, fun a ha b hb => ?_⟩
        have old : a ∈ mentions cs := List.mem_eraseDups.1 ha
        rw [List.mem_singleton.1 hb, beforeMention_append old]
        have late : cs.length ≤ beforeMention key (key r) (cs ++ [c]) := by
          refine length_le_beforeMention (fun b hb hk => new ?_) _
          exact same b (List.mem_append_left _ hb) r (by simp) hk ▸ hb
        exact Nat.lt_of_lt_of_le (beforeMention_lt_iff.2 ⟨a, old, rfl⟩) late

theorem publicIps_listed_iff (key : Reference → κ) (n : Interface) :
    ListsOnce key n n.publicIps ↔
      ∀ a ∈ mentions n.configurations, ∀ b ∈ mentions n.configurations, key a = key b → a = b := by
  constructor
  · intro lists a ha b hb
    exact List.inj_on_of_nodup_map lists.distinct (mem_publicIps.2 ha) (mem_publicIps.2 hb)
  · intro same
    have ordered := eraseDups_ordered key n.configurations same
    refine ⟨List.pairwise_map.2 (ordered.imp fun h e => ?_), ?_, ?_, ordered⟩
    · rw [e] at h
      exact Nat.lt_irrefl _ h
    · intro c hc r hr
      exact List.mem_map_of_mem (mem_publicIps.2 (mem_mentions.2 ⟨c, hc, hr⟩))
    · intro r hr
      exact mem_mentions.1 (mem_publicIps.1 hr)

/-- Every spelling of an address is listed once, and every address is if it is spelled in one way only. -/
theorem publicIps_once_iff (n : Interface) :
    ListsOnce id n n.publicIps ∧
      (ListsOnce Reference.place n n.publicIps ↔
        ∀ a ∈ mentions n.configurations, ∀ b ∈ mentions n.configurations, a.place = b.place → a = b) :=
  ⟨(publicIps_listed_iff id n).2 fun _ _ _ _ h => h, publicIps_listed_iff Reference.place n⟩

def spellings : List String :=
  ["/subscriptions/s/resourceGroups/rg1/providers/Microsoft.Network/publicIPAddresses/ip1",
    "/subscriptions/s/resourcegroups/rg1/providers/Microsoft.Network/publicIPAddresses/ip1"]

def respelled : Interface := ⟨.text "nic1", spellings.map fun id => ⟨.null, some (Reference.create id)⟩⟩

theorem respelled_not_once : ¬ ListsOnce Reference.place respelled respelled.publicIps := by
  intro lists
  have mentioned : mentions respelled.configurations = spellings.map Reference.create := rfl
  have injective := (publicIps_listed_iff Reference.place respelled).1 lists
  rw [mentioned] at injective
  have placed : ∀ id ∈ spellings, (Reference.create id).place = (some "rg1", some "ip1") := by decide +kernel
  have equal := injective _ List.mem_cons_self _ (List.mem_cons_of_mem _ List.mem_cons_self)
    ((placed _ List.mem_cons_self).trans (placed _ (List.mem_cons_of_mem _ List.mem_cons_self)).symm)
  exact absurd (congrArg Reference.id equal) (by decide +kernel)

end Interface

end NodeReclaim
