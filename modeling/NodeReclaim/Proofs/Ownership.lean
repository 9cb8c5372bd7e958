import NodeReclaim.Cleanup.Shared
import NodeReclaim.Proofs.Objects
import NodeReclaim.Proofs.Plan

/-! Ownership of availability sets. A set is deleted only on the word of its own tags, which were read just
before, and only once. The cleanup of a set never reports a failure: it returns that all is well or it ends
with a fault, and a deletion that is refused ends it with the fault of the refusal. -/
namespace NodeReclaim

theorem Value.same_text_iff : Value.same v (.text s) = true ↔ v = .text s := by
  cases v with
  | text t =>
    rw [Value.same, beq_iff_eq, Value.text.injEq]
  | null | bool | int | float | moment | list | table | record =>
    simp [Value.same, Value.number?]

def Tags.Hold (t : Tags) (key value : String) : Prop :=
  t.get? (.text key) = some (.text value) ∧ (.text key, .text value) ∈ t

theorem Tags.hold_of_get? {t : Tags} (h : t.get? (.text key) = some (.text value)) : t.Hold key value := by
  refine ⟨h, ?_⟩
  obtain ⟨⟨k, v⟩, found, rfl⟩ := Option.map_eq_some_iff.1 h
  have named := List.find?_some found
  have same : k = .text key := Value.same_text_iff.1 named
  rw [← same]
  exact List.mem_of_find?_eq_some found

/-- The tags of an object hold a value at a key. -/
def HoldsTag (object : Value) (key value : String) : Prop :=
  ∃ tags, Tags.ofValue? (object.field "tags") = .ok (some tags) ∧ tags.Hold key value

theorem holdsTag_of_hasTag (ha : AvailabilitySet.ofObject v = .ok a)
    (h : a.hasTag (.text key) (.text value) = .ok true) : HoldsTag v key value := by
  have read := AvailabilitySet.tags_ofObject ha
  unfold AvailabilitySet.hasTag at h
  cases ht : a.tags with
  | none =>
    rw [ht] at h
    cases h
  | some tags =>
    rw [ht] at h read
    refine ⟨tags, read, Tags.hold_of_get? ?_⟩
    have same : ((tags.get? (.text key)).getD .null).same (.text value) = true := by
      simpa [Value.asKey, Except.map] using h
    have found := Value.same_text_iff.1 same
    cases hg : tags.get? (.text key) with
    | none =>
      rw [hg] at found
      cases found
    | some w =>
      rw [hg] at found
      exact congrArg some found

namespace Access
open Program

theorem foreign_of_found (h : Runs (object s kind target) t (.ok v)) (hv : v ≠ .null) :
    ∃ replies : List (Except Fault Value),
      foreign t = replies.map (got kind target) ++ [got kind target (.ok v)] := by
  obtain ⟨replies, hf, ho⟩ := replies_of_object h
  obtain ⟨rs, reply, rfl, found⟩ := ho v rfl
  have answered : reply = .ok v := by
    cases reply with
    | ok w => exact congrArg _ found
    | error f => exact absurd found.symm hv
  rw [answered] at hf
  refine ⟨rs, ?_⟩
  rw [hf, List.map_append]
  rfl

end Access

namespace Cleanup
open Program Access

theorem isOrphaned_true (h : snapshotOf AvailabilitySet.ofObject v = .ok found)
    (ho : isOrphaned s found = .ok true) :
    v ≠ .null ∧ ∃ a, AvailabilitySet.ofObject v = .ok a ∧
      a.hasTag s.ownershipKey s.ownershipValue = .ok true := by
  rcases snapshotOf_ok h with ⟨rfl, rfl⟩ | ⟨hv, a, ha, rfl⟩
  · cases ho
  · refine ⟨hv, a, ha, ?_⟩
    unfold isOrphaned at ho
    dsimp only at ho
    cases owned : a.hasTag s.ownershipKey s.ownershipValue with
    | error m =>
      rw [owned] at ho
      cases ho
    | ok b =>
      cases b with
      | true => rfl
      | false =>
        rw [owned] at ho
        cases ho

def endOf : Except Fault Unit → Except Fault Bool
  | .ok () => .ok true
  | .error f => if f.isNotFound then .ok true else .error f

theorem runs_deleteSet (h : Runs (delete s .availabilitySet target >>= confirm s) t o) :
    ∃ reply, foreign t = [deletedNow .availabilitySet target reply] ∧ o = endOf reply := by
  rcases runs_bind_iff.1 h with ⟨e, rfl, h₁⟩ | ⟨job, t₁, t₂, rfl, h₁, h₂⟩
  · obtain ⟨reply, hf, ho⟩ := runs_deleteNow h₁
    refine ⟨reply, hf, ?_⟩
    rcases reply with f | _
    · unfold endOf
      dsimp only [jobOf, Except.map] at ho
      split at ho
      · cases ho
      next refused =>
        cases ho
        exact (if_neg refused).symm
    · cases ho
  · obtain ⟨reply, hf, ho⟩ := runs_deleteNow h₁
    have finished : job = .done (description .availabilitySet target) ∧ endOf reply = .ok true := by
      rcases reply with f | _
      · unfold endOf
        dsimp only [jobOf, Except.map] at ho
        split at ho
        next gone =>
          cases ho
          exact ⟨rfl, if_pos gone⟩
        · cases ho
      · cases ho
        exact ⟨rfl, rfl⟩
    obtain ⟨rfl, ended⟩ := finished
    obtain ⟨rfl, rfl⟩ := h₂
    rw [List.append_nil]
    exact ⟨reply, hf, ended.symm⟩

/-- A set is deleted at most once, and only if it was found just before and carries the tag. The result is
never negative, and a deletion that is refused ends the cleanup. -/
structure DeletesOwned (key value : String) (m : Machine) (t : List Exchange) (o : Except Fault Bool) :
    Prop where
  owned : deletions t = [] ∨ ∃ r v before reply, m.availabilitySet = some r ∧
    foreign t = before ++ [got .availabilitySet r.target (.ok v),
      deletedNow .availabilitySet r.target reply] ∧
    deletions t = [.resource .availabilitySet r.target] ∧ v ≠ .null ∧ HoldsTag v key value
  positive : ∀ b, o = .ok b → b = true
  refused : ∀ target f, deletedNow .availabilitySet target (.error f) ∈ t → f.isNotFound = false →
    o = .error f

theorem DeletesOwned.idle (h : deletions t = []) (ho : ∀ b, o = .ok b → b = true) :
    DeletesOwned key value m t o where
  owned := .inl h
  positive := ho
  refused target f hx _ := by
    have unasked : ∀ x ∈ t, x.deletion? = none := List.filterMap_eq_nil_iff.1 h
    cases unasked _ hx

theorem DeletesOwned.once {replies : List (Except Fault Value)} (hm : m.availabilitySet = some r)
    (seen : foreign t = replies.map (got .availabilitySet r.target) ++
      [got .availabilitySet r.target (.ok v), deletedNow .availabilitySet r.target reply])
    (present : v ≠ .null) (tagged : HoldsTag v key value) (ho : o = endOf reply) :
    DeletesOwned key value m t o where
  owned := by
    refine .inr ⟨r, v, _, reply, hm, seen, ?_, present, tagged⟩
    have reads : (replies.map (got .availabilitySet r.target)).filterMap Exchange.deletion? = [] := by
      simp [got, Exchange.deletion?]
    rw [← deletions_foreign, seen, List.filterMap_append, reads]
    rfl
  positive := by
    rintro b rfl
    unfold endOf at ho
    split at ho
    · cases ho
      rfl
    · split at ho <;> cases ho
      rfl
  refused target f hx hf := by
    have asked : deletedNow .availabilitySet target (.error f) ∈ foreign t :=
      List.mem_filter.2 ⟨hx, rfl⟩
    rw [seen] at asked
    have answered : reply = .error f := by
      rcases List.mem_append.1 asked with read | last
      · obtain ⟨_, _, h⟩ := List.mem_map.1 read
        cases h
      · rcases List.mem_cons.1 last with h | h
        · cases h
        · cases List.mem_singleton.1 h
          rfl
    rw [ho, answered]
    exact if_neg (by rw [hf]; decide)

theorem deletesOwned (hk : s.ownershipKey = .text key) (hv : s.ownershipValue = .text value)
    (h : Runs (availabilitySet s m) t o) : DeletesOwned key value m t o := by
  cases hm : m.availabilitySet with
  | none =>
    rw [availabilitySet, hm] at h
    obtain ⟨rfl, rfl⟩ := h
    exact .idle rfl fun _ hb => by cases hb; rfl
  | some r =>
    rw [availabilitySet, hm] at h
    have unchanged {reading found} (hr : Runs (object s .availabilitySet r.target) reading found) :
        deletions reading = [] := by
      obtain ⟨replies, hs, _⟩ := steps_of_object hr
      rw [← deletions_steps, hs, Plan.deletions_reads]
    rcases runs_bind_iff.1 h with ⟨e, rfl, h₁⟩ | ⟨found, t₁, t₂, rfl, h₁, h₂⟩
    · obtain ⟨_, hr, _⟩ := runs_snapshot?_iff.1 h₁
      exact .idle (unchanged hr) nofun
    obtain ⟨_, hr, hs⟩ := runs_snapshot?_iff.1 h₁
    obtain ⟨v, rfl, snapshot⟩ := ok_of_bind hs.symm
    cases ho : isOrphaned s found with
    | error e =>
      rw [ho] at h₂
      obtain ⟨rfl, rfl⟩ := h₂
      rw [List.append_nil]
      exact .idle (unchanged hr) nofun
    | ok orphaned =>
      rw [ho, misuse_ok, done_bind] at h₂
      cases orphaned with
      | false =>
        obtain ⟨rfl, rfl⟩ := h₂
        rw [List.append_nil]
        exact .idle (unchanged hr) fun _ hb => by cases hb; rfl
      | true =>
        obtain ⟨present, a, ha, tagged⟩ := isOrphaned_true snapshot ho
        rw [hk, hv] at tagged
        obtain ⟨t₃, logged, h₃⟩ := runs_log_bind_iff.1 h₂
        obtain ⟨reply, hd, ho⟩ := runs_deleteSet h₃
        obtain ⟨replies, hb⟩ := foreign_of_found hr present
        have deleted : foreign t₂ = [deletedNow .availabilitySet r.target reply] := by
          rw [logged]
          exact hd
        have seen : foreign (t₁ ++ t₂) = replies.map (got .availabilitySet r.target) ++
            [got .availabilitySet r.target (.ok v), deletedNow .availabilitySet r.target reply] := by
          rw [foreign_append, hb, deleted, List.append_assoc]
          rfl
        exact .once hm seen present (holdsTag_of_hasTag ha tagged) ho

/-- Whatever the provider answers and whatever texts the settings give as key and value, only a set that was
found just before and carries the tag is deleted, once. The cleanup returns that all is well, or it ends with a
fault, that of a refused deletion among them. -/
theorem availabilitySet_deletes_owned (w : World σ) (st : σ) (s : Settings) (key value : String)
    (m : Machine) :
    let s := { s with ownershipKey := .text key, ownershipValue := .text value }
    let r := (availabilitySet s m).run w st
    DeletesOwned key value m r.trace r.outcome :=
  deletesOwned rfl rfl (runs_run w _ st)

end Cleanup

end NodeReclaim
