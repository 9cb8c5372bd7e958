import NodeReclaim.Cleanup.Shared
import NodeReclaim.Proofs.Access
import NodeReclaim.Rehearsal.World

/-! Reclaiming a resource group. The group is deleted when its last listing comes out empty, and a listing
that ends because something was not found comes out empty whatever it yielded before. -/
namespace NodeReclaim.Cleanup
open Program

/-- If something was deleted then the listing that was made last yielded nothing. -/
def SparesContents (t : List Exchange) : Prop :=
  deletions t ≠ [] → ∃ listing, (listings t).getLast? = some listing ∧ listing.ids = []

def contentsOf (listing : Listing) : Except Fault (List Value) :=
  Access.orAbsent [] (Access.outcomeOf listing)

theorem contentsOf_empty_iff (listing : Listing) :
    contentsOf listing = .ok [] ↔
      listing.fault = none ∧ listing.ids = [] ∨ ∃ f, listing.fault = some f ∧ f.isNotFound := by
  unfold contentsOf Access.outcomeOf
  cases hf : listing.fault with
  | none => simp [Access.orAbsent]
  | some f => by_cases h : f.isNotFound <;> simp [Access.orAbsent, h]

/-- The contents are listed, and the group is deleted exactly if they are found to be empty. What the
group held is lost exactly if the last listing had yielded something when it ended with the fault that
something was not found. -/
structure DeletesIfEmpty (s : Settings) (group : Value) (t : List Exchange)
    (found : Except Fault (List Value)) : Prop where
  read : ∃ reading rest, t = reading ++ rest ∧ Runs (Access.resources s group) reading found
  last : (listings t).getLast?.map contentsOf = some found ∨ ∃ f, found = .error f ∧ Retry.isOwn f
  empty : found = .ok [] → deletions t = [.group group]
  kept : found ≠ .ok [] → deletions t = []
  spares : SparesContents t ↔
    ¬ ∃ listing f, (listings t).getLast? = some listing ∧ found = .ok [] ∧
      listing.ids ≠ [] ∧ listing.fault = some f ∧ f.isNotFound

theorem deletions_of_resources (h : Runs (Access.resources s place) t o) : deletions t = [] := by
  obtain ⟨replies, hf, _⟩ := Access.runs_resources h
  rw [← deletions_foreign, hf, List.filterMap_map]
  exact List.filterMap_eq_nil_iff.2 fun _ _ => rfl

namespace DeletesIfEmpty

theorem of_views (h : Runs (Access.resources s place) reading found) (hr : listings rest = [])
    (hd : found = .ok [] ∧ deletions rest = [.group place] ∨ found ≠ .ok [] ∧ deletions rest = []) :
    DeletesIfEmpty s place (reading ++ rest) found := by
  obtain ⟨replies, hf, ho⟩ := Access.runs_resources h
  have listed : listings (reading ++ rest) = replies := by
    rw [listings_append, hr, List.append_nil, ← listings_foreign, hf, List.filterMap_map]
    exact List.filterMap_some
  have deleted : deletions (reading ++ rest) = deletions rest := by
    rw [deletions_append, deletions_of_resources h, List.nil_append]
  rw [← listed] at ho
  rcases hd with ⟨rfl, hd⟩ | ⟨full, hd⟩
  · rw [hd] at deleted
    refine ⟨⟨reading, rest, rfl, h⟩, ho, fun _ => deleted, fun full => absurd rfl full, ?_⟩
    obtain ⟨listing, hl, hc⟩ := Option.map_eq_some_iff.1 (ho.resolve_right (by simp))
    rw [SparesContents, deleted, hl]
    constructor
    · rintro spared ⟨_, f, ⟨⟩, _, ids, _⟩
      obtain ⟨_, ⟨⟩, none_listed⟩ := spared (List.cons_ne_nil _ _)
      exact ids none_listed
    · intro spared _
      refine ⟨listing, rfl, ?_⟩
      rcases (contentsOf_empty_iff listing).1 hc with ⟨_, none_listed⟩ | ⟨f, hf, missing⟩
      · exact none_listed
      · by_cases ids : listing.ids = []
        · exact ids
        · exact absurd ⟨listing, f, rfl, rfl, ids, hf, missing⟩ spared
  · rw [hd] at deleted
    refine ⟨⟨reading, rest, rfl, h⟩, ho, fun empty => absurd empty full, fun _ => deleted, ?_⟩
    apply iff_of_true
    · intro some
      exact absurd deleted some
    · rintro ⟨_, _, _, empty, _⟩
      exact full empty

end DeletesIfEmpty

theorem views_of_followUp {p : Program α} (hp : p.Within Access.isFollowUp) (h : Runs p t o) :
    listings t = [] ∧ deletions t = [] :=
  ⟨hp.filterMap_eq_nil (fun r _ hr => by cases r <;> first | rfl | cases hr) h,
    hp.filterMap_eq_nil (fun r _ hr => by cases r <;> first | rfl | cases hr) h⟩

theorem views_of_deleteGroup (h : Runs (Access.deleteGroup s place) t o) :
    listings t = [] ∧ deletions t = [.group place] := by
  obtain ⟨reply, hf⟩ := Access.runs_deleteGroup h
  rw [← listings_foreign, ← deletions_foreign, hf]
  exact ⟨rfl, rfl⟩

theorem runs_resourceGroup (h : Runs (resourceGroup s place) t o) :
    ∃ found, DeletesIfEmpty s place t found := by
  rcases runs_bind_iff.1 h with ⟨e, rfl, h₁⟩ | ⟨ids, t₁, t₂, rfl, h₁, h₂⟩
  · refine ⟨.error e, ?_⟩
    rw [← List.append_nil t]
    exact .of_views h₁ rfl (.inr ⟨nofun, rfl⟩)
  · refine ⟨.ok ids, ?_⟩
    cases ids with
    | nil =>
      obtain ⟨t₃, rfl, h₃⟩ := runs_log_bind_iff.1 h₂
      have reclaimed : listings t₃ = [] ∧ deletions t₃ = [.group place] := by
        rcases runs_bind_iff.1 h₃ with ⟨_, _, hd⟩ | ⟨job, t₄, t₅, rfl, hd, hc⟩
        · exact views_of_deleteGroup hd
        · obtain ⟨listed, deleted⟩ := views_of_deleteGroup hd
          obtain ⟨listed', deleted'⟩ := views_of_followUp (Access.within_confirm s job) hc
          rw [listings_append, deletions_append, listed, listed', deleted, deleted']
          exact ⟨rfl, rfl⟩
      exact .of_views h₁ reclaimed.1 (.inl ⟨rfl, reclaimed.2⟩)
    | cons v ids =>
      obtain ⟨rfl, _⟩ := h₂
      exact .of_views h₁ rfl (.inr ⟨nofun, rfl⟩)

/-- A resource group is deleted exactly if its last listing is found to be empty. -/
theorem resourceGroup_deleted_iff_empty (w : World σ) (st : σ) (s : Settings) (place : Value) :
    ∃ found, DeletesIfEmpty s place ((resourceGroup s place).run w st).trace found :=
  runs_resourceGroup (runs_run w _ st)

def interruptedListing : Rehearsal.Store where
  groups := [("rg1", [.text "/disk"])]
  scripts :=
    [("list rg1",
      [{ blank := false, returned := some (.list [.text "/disk"]),
         fault := some (.raised .notFound (some "gone") none) }])]

theorem interrupted_listing_not_spared :
    ¬ SparesContents
      ((resourceGroup plainSettings (.text "rg1")).run rehearsal interruptedListing).trace := by
  intro spared
  have deleted : deletions ((resourceGroup plainSettings (.text "rg1")).run rehearsal
      interruptedListing).trace = [.group (.text "rg1")] := rfl
  rw [SparesContents, deleted] at spared
  obtain ⟨listing, hl, empty⟩ := spared (List.cons_ne_nil _ _)
  cases hl
  cases empty

end NodeReclaim.Cleanup
