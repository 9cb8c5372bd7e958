import NodeReclaim.Cleanup.Shared
import NodeReclaim.Proofs.Objects
import NodeReclaim.Proofs.Plan
import NodeReclaim.Rehearsal.World

/-! What several machines share: security groups and availability sets. They are deleted on the word of
the object that was just read, of which only users with an identifier count. -/
namespace NodeReclaim.Cleanup
open Program

theorem silent_logStep (text : String) : (logStep text).Within isSilent :=
  within_ask fun _ => rfl

theorem silent_logTrouble (text : String) : (logTrouble text).Within isSilent :=
  within_ask fun _ => rfl

theorem isOrphaned_of_snapshotOf (h : Access.snapshotOf AvailabilitySet.ofObject v = .ok found) :
    (isOrphaned s found).toOption.getD false =
      (isOwned s v && (memberIds (v.field "virtual_machines")).isEmpty) := by
  rcases Access.snapshotOf_ok h with ⟨rfl, rfl⟩ | ⟨_, a, ha, rfl⟩
  · rfl
  · rw [AvailabilitySet.isOwned_ofObject ha, ← AvailabilitySet.isEmpty_ofObject ha, isOrphaned]
    cases a.hasTag s.ownershipKey s.ownershipValue <;> rfl

/-- What makes an object free to go: it can be read as a snapshot that is eligible, and no user of it
has an identifier. -/
def IsFree (eligible : Value → Prop) (users : String) (found : Except Fault Value) : Prop :=
  ∃ v, found = .ok v ∧ eligible v ∧ memberIds (v.field users) = []

def SecurityGroup.IsEligible (v : Value) : Prop := ∃ g, SecurityGroup.ofObject v = .ok g

def AvailabilitySet.IsEligible (s : Settings) (v : Value) : Prop :=
  isOwned s v = true ∧ ∃ a, AvailabilitySet.ofObject v = .ok a

/-- If something was deleted then the object that was read last lists no user at all. -/
def SparesUsed (users : String) (t : List Exchange) : Prop :=
  deletions t ≠ [] → ∃ r, (readings t).getLast? = some r ∧ entries (r.object.field users) = []

/-- The object is read, and deleted exactly if the read found it free to go. -/
structure DeletesIfFree (s : Settings) (kind : Kind) (target : Target) (eligible : Value → Prop)
    (users : String) (t : List Exchange) (found : Except Fault Value) : Prop where
  read : ∃ reading rest, t = reading ++ rest ∧ Runs (Access.object s kind target) reading found
  free : IsFree eligible users found → deletions t = [.resource kind target]
  kept : ¬ IsFree eligible users found → deletions t = []
  spares : SparesUsed users t ↔
    ∀ v, found = .ok v → IsFree eligible users found → entries (v.field users) = []

namespace DeletesIfFree
variable {eligible : Value → Prop}

theorem readings_of_object (h : Runs (Access.object s kind target) reading (.ok v))
    (hr : ((steps rest).head?).any Step.isRead = false) :
    ∃ r, readings (reading ++ rest) = r :: readings rest ∧ r.object = v := by
  obtain ⟨replies, hs, hv⟩ := Access.steps_of_object h
  obtain ⟨rs, reply, rfl, ho⟩ := hv v rfl
  refine ⟨⟨kind, target, reply⟩, ?_, ho⟩
  rw [readings, steps_append, hs, Plan.settled_reads hr]
  rfl

theorem of_steps (h : Runs (Access.object s kind target) reading found)
    (hr : IsFree eligible users found ∧ steps rest = [.delete (.resource kind target)] ∨
      ¬ IsFree eligible users found ∧ steps rest = []) :
    DeletesIfFree s kind target eligible users (reading ++ rest) found := by
  obtain ⟨replies, hs, _⟩ := Access.steps_of_object h
  have deleted : deletions (reading ++ rest) = (steps rest).filterMap Step.deletion? := by
    rw [deletions_append, ← deletions_steps, hs, Plan.deletions_reads, List.nil_append,
      deletions_steps]
  rcases hr with ⟨free, hd⟩ | ⟨used, hd⟩
  · rw [hd] at deleted
    refine ⟨⟨reading, rest, rfl, h⟩, fun _ => deleted, fun used => absurd free used, ?_⟩
    obtain ⟨v, rfl, _⟩ := id free
    have alone : ((steps rest).head?).any Step.isRead = false := by
      rw [hd]
      rfl
    obtain ⟨r, hreads, rfl⟩ := readings_of_object h alone
    have last : (readings (reading ++ rest)).getLast? = some r := by
      rw [hreads, readings, hd]
      rfl
    rw [SparesUsed, deleted, last]
    constructor
    · rintro spared _ ⟨⟩ _
      obtain ⟨_, ⟨⟩, unused⟩ := spared (List.cons_ne_nil _ _)
      exact unused
    · exact fun unused _ => ⟨r, rfl, unused _ rfl free⟩
  · rw [hd] at deleted
    refine ⟨⟨reading, rest, rfl, h⟩, fun free => absurd free used, fun _ => deleted, ?_⟩
    apply iff_of_true
    · intro some
      exact absurd deleted some
    · intro v hv free
      exact absurd free used

theorem append_silent (h : DeletesIfFree s kind target eligible users t found)
    (ht : steps t' = []) : DeletesIfFree s kind target eligible users (t ++ t') found := by
  have same : steps (t ++ t') = steps t := by rw [steps_append, ht, List.append_nil]
  have deleted : deletions (t ++ t') = deletions t := by
    rw [← deletions_steps, same, deletions_steps]
  obtain ⟨reading, rest, rfl, hr⟩ := h.read
  refine ⟨⟨reading, rest ++ t', List.append_assoc .., hr⟩, ?_, ?_, ?_⟩
  · rw [deleted]
    exact h.free
  · rw [deleted]
    exact h.kept
  · rw [SparesUsed, deleted, readings, same]
    exact h.spares

theorem of_snapshot {ofObject : Value → Except Misuse α} {f : Option α → Program β}
    (readable : ∀ v, eligible v → ∃ a, ofObject v = .ok a)
    (next : ∀ v a t o, Access.snapshotOf ofObject v = .ok a → Runs (f a) t o →
      IsFree eligible users (.ok v) ∧ steps t = [.delete (.resource kind target)] ∨
        ¬ IsFree eligible users (.ok v) ∧ steps t = [])
    (h : Runs (Access.snapshot? s kind target ofObject >>= f) t o) :
    ∃ found, DeletesIfFree s kind target eligible users t found := by
  rcases runs_bind_iff.1 h with ⟨e, rfl, h₁⟩ | ⟨a, t₁, t₂, rfl, h₁, h₂⟩
  · obtain ⟨found, ho, hs⟩ := Access.runs_snapshot?_iff.1 h₁
    refine ⟨found, ?_⟩
    have used : ¬ IsFree eligible users found := by
      rintro ⟨v, rfl, hv, _⟩
      obtain ⟨a, ha⟩ := readable v hv
      obtain ⟨m, hm⟩ := Access.snapshotOf_error hs.symm
      rw [ha] at hm
      cases hm
    rw [← List.append_nil t]
    exact of_steps ho (.inr ⟨used, rfl⟩)
  · obtain ⟨found, ho, hs⟩ := Access.runs_snapshot?_iff.1 h₁
    obtain ⟨v, rfl, ha⟩ := ok_of_bind hs.symm
    exact ⟨_, of_steps ho (next v a t₂ o ha h₂)⟩

end DeletesIfFree

theorem isEmpty_iff_free {eligible : Value → Prop} (he : eligible v) :
    (memberIds (v.field users)).isEmpty = true ↔ IsFree eligible users (.ok v) := by
  rw [List.isEmpty_iff]
  constructor
  · intro empty
    exact ⟨v, rfl, he, empty⟩
  · rintro ⟨_, ⟨⟩, _, empty⟩
    exact empty

theorem runs_unguardedSecurityGroup (hn : sharedName s levels place = .ok name)
    (h : Runs (unguardedSecurityGroup s levels home place) t o) :
    ∃ found, DeletesIfFree s .securityGroup ⟨home, .text name⟩
      SecurityGroup.IsEligible "network_interfaces" t found := by
  rw [unguardedSecurityGroup, hn] at h
  apply DeletesIfFree.of_snapshot (fun v hv => hv) _ h
  intro v found t o hs h
  rcases Access.snapshotOf_ok hs with ⟨rfl, rfl⟩ | ⟨_, g, hg, rfl⟩
  · obtain ⟨rfl, _⟩ := h
    refine .inr ⟨?_, rfl⟩
    rintro ⟨_, ⟨⟩, ⟨g, hg⟩, _⟩
    cases hg
  · have eligible : SecurityGroup.IsEligible v := ⟨g, hg⟩
    dsimp only at h
    rw [SecurityGroup.isInUse_ofObject hg] at h
    cases empty : (memberIds (v.field "network_interfaces")).isEmpty with
    | false =>
      rw [empty] at h
      obtain ⟨rfl, _⟩ := h
      exact .inr ⟨mt (isEmpty_iff_free eligible).2 (by rw [empty]; decide), rfl⟩
    | true =>
      rw [empty] at h
      obtain ⟨_, rfl, h'⟩ := runs_log_bind_iff.1 h
      have deleted := Access.steps_of_deleteConfirmed h'
      exact .inl ⟨(isEmpty_iff_free eligible).1 empty, deleted⟩

theorem isOrphaned_iff_free (h : Access.snapshotOf AvailabilitySet.ofObject v = .ok found) :
    isOrphaned s found = .ok true ↔
      IsFree (AvailabilitySet.IsEligible s) "virtual_machines" (.ok v) := by
  have orphaned := isOrphaned_of_snapshotOf (s := s) h
  constructor
  · intro ho
    rw [ho, eq_comm] at orphaned
    obtain ⟨owned, empty⟩ := Bool.and_eq_true_iff.1 orphaned
    rcases Access.snapshotOf_ok h with ⟨rfl, rfl⟩ | ⟨_, a, ha, rfl⟩
    · cases owned
    · exact ⟨v, rfl, ⟨owned, a, ha⟩, List.isEmpty_iff.1 empty⟩
  · rintro ⟨_, ⟨⟩, ⟨owned, _⟩, empty⟩
    rw [owned, empty] at orphaned
    cases ho : isOrphaned s found <;> rw [ho] at orphaned <;> cases orphaned
    rfl

theorem runs_availabilitySet (hm : m.availabilitySet = some r)
    (h : Runs (availabilitySet s m) t o) :
    ∃ found, DeletesIfFree s .availabilitySet r.target (AvailabilitySet.IsEligible s)
      "virtual_machines" t found := by
  rw [availabilitySet, hm] at h
  apply DeletesIfFree.of_snapshot (fun v hv => hv.2) _ h
  intro v found t o hs h
  rw [← isOrphaned_iff_free hs]
  cases ho : isOrphaned s found with
  | error m =>
    rw [ho] at h
    obtain ⟨rfl, _⟩ := h
    exact .inr ⟨nofun, rfl⟩
  | ok orphaned =>
    rw [ho, misuse_ok, done_bind] at h
    cases orphaned with
    | false =>
      obtain ⟨rfl, _⟩ := h
      exact .inr ⟨nofun, rfl⟩
    | true =>
      obtain ⟨_, rfl, h'⟩ := runs_log_bind_iff.1 h
      have deleted := Access.steps_of_deleteConfirmed h'
      exact .inl ⟨rfl, deleted⟩

theorem runs_guarded {p : Program α} (h : Runs (p.guarded text) t o) :
    ∃ t₁ t₂ o', t = t₁ ++ t₂ ∧ Runs p t₁ o' ∧ foreign t₂ = [] ∧ o = .ok o' := by
  obtain ⟨o', t₁, t₂, rfl, h₁, h₂⟩ := runs_attempt_bind_iff.1 h
  refine ⟨t₁, t₂, o', rfl, h₁, ?_⟩
  cases o' with
  | ok a =>
    obtain ⟨rfl, rfl⟩ := h₂
    exact ⟨rfl, rfl⟩
  | error f =>
    obtain ⟨_, _, rfl, rfl, rfl⟩ := runs_ask_bind_iff.1 h₂
    exact ⟨rfl, rfl⟩

/-- The outcome when every fault counts as a failure. -/
def succeeded : Except Fault Bool → Bool
  | .ok deleted => deleted
  | .error _ => false

theorem runs_contained (h : Runs (securityGroup s home place levels) t o) :
    ∃ t₁ t₂ o', t = t₁ ++ t₂ ∧ Runs (unguardedSecurityGroup s levels home place) t₁ o' ∧
      foreign t₂ = [] ∧ o = .ok (succeeded o') := by
  rcases runs_bind_iff.1 h with ⟨e, rfl, h₁⟩ | ⟨outcome, t', _, rfl, h₁, rfl, rfl⟩
  · obtain ⟨_, _, _, _, _, _, ended⟩ := runs_guarded h₁
    cases ended
  · obtain ⟨t₁, t₂, o', rfl, h₁, silent, ended⟩ := runs_guarded h₁
    cases ended
    rw [List.append_nil]
    refine ⟨t₁, t₂, _, rfl, h₁, silent, ?_⟩
    cases outcome <;> rfl

theorem runs_securityGroup (h : Runs (securityGroup s home place levels) t o) :
    match sharedName s levels place with
    | .error _ => deletions t = []
    | .ok name => ∃ found, DeletesIfFree s .securityGroup ⟨home, .text name⟩
        SecurityGroup.IsEligible "network_interfaces" t found := by
  obtain ⟨t₁, t₂, o', rfl, h₁, silent, _⟩ := runs_contained h
  have hs : steps t₂ = [] := by
    rw [← steps_foreign, silent]
    rfl
  cases hn : sharedName s levels place with
  | error e =>
    rw [unguardedSecurityGroup, hn] at h₁
    obtain ⟨rfl, _⟩ := h₁
    rw [List.nil_append, ← deletions_steps, hs]
    rfl
  | ok name =>
    obtain ⟨found, decided⟩ := runs_unguardedSecurityGroup hn h₁
    exact ⟨found, decided.append_silent hs⟩

/-- A security group or an availability set is deleted exactly if the object that was read is eligible and
no user of it has an identifier. So one that lists users is spared unless none of them has one. -/
theorem shared_deleted_iff_free (w : World σ) (st : σ) (s : Settings) :
    (∀ levels home place,
      let t := ((securityGroup s home place levels).run w st).trace
      match sharedName s levels place with
      | .error _ => deletions t = []
      | .ok name => ∃ found, DeletesIfFree s .securityGroup ⟨home, .text name⟩
          SecurityGroup.IsEligible "network_interfaces" t found) ∧
    ∀ m,
      let t := ((availabilitySet s m).run w st).trace
      match m.availabilitySet with
      | none => deletions t = []
      | some r => ∃ found, DeletesIfFree s .availabilitySet r.target
          (AvailabilitySet.IsEligible s) "virtual_machines" t found := by
  constructor
  · intro levels home place
    exact runs_securityGroup (runs_run w _ st)
  · intro m t
    have h : Runs (availabilitySet s m) t _ := runs_run w _ st
    cases hm : m.availabilitySet with
    | none =>
      rw [availabilitySet, hm] at h
      rw [h.1]
      rfl
    | some r => exact runs_availabilitySet hm h

/-- A security group that one interface uses, of which no identifier is known. -/
def namelessUser : Rehearsal.Store where
  objects :=
    [(.securityGroup, "rg1/azteardown-web",
      .record [("name", .text "azteardown-web"),
        ("network_interfaces", .list [.record [("id", .null)]])])]

theorem nameless_user_not_spared :
    ¬ SparesUsed "network_interfaces"
      ((securityGroup plainSettings (.text "rg1") (.text "web")).run rehearsal namelessUser).trace := by
  intro spared
  have deleted : deletions ((securityGroup plainSettings (.text "rg1") (.text "web")).run rehearsal
      namelessUser).trace = [.resource .securityGroup ⟨.text "rg1", .text "azteardown-web"⟩] := rfl
  rw [SparesUsed, deleted] at spared
  obtain ⟨r, hr, unused⟩ := spared (List.cons_ne_nil _ _)
  cases hr
  cases unused

end NodeReclaim.Cleanup
