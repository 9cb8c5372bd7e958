import NodeReclaim.Proofs.Closure
import NodeReclaim.Proofs.Vanishing

/-! Deletions that the provider refuses. A fault that comes with a finished operation counts as a failure
of its step, but one that answers the request itself leaves the cleanup: nothing is asked for after it, and
no report comes back. -/
namespace NodeReclaim
open Program

/-- A deletion that is refused, with its fault. To say that nothing is there is no refusal. -/
def Exchange.refusal? : Exchange → Option (Kind × Fault)
  | ⟨.beginDelete kind _ _, .error f⟩ | ⟨.delete kind _, .error f⟩ =>
    if f.isNotFound then none else some (kind, f)
  | _ => none

def refusals (t : List Exchange) : List (Kind × Fault) := t.filterMap Exchange.refusal?

@[simp] theorem refusals_append (t₁ t₂ : List Exchange) :
    refusals (t₁ ++ t₂) = refusals t₁ ++ refusals t₂ := List.filterMap_append

theorem refusals_of_deletions (h : deletions t = []) : refusals t = [] := by
  have unasked : ∀ x ∈ t, x.deletion? = none := List.filterMap_eq_nil_iff.1 h
  apply List.filterMap_eq_nil_iff.2
  intro x hx
  have hd : x.deletion? = none := unasked x hx
  obtain ⟨r, reply⟩ := x
  cases r <;> first | rfl | cases hd

/-- Nothing is refused, or one deletion is: it is the last thing asked for, and its fault is the outcome. -/
def EndsAtRefusal (t : List Exchange) (o : Except Fault α) : Prop :=
  refusals t = [] ∨
    ∃ before x kind f, t = before ++ [x] ∧ refusals before = [] ∧
      x.refusal? = some (kind, f) ∧ o = .error f

def Program.GivesUp (p : Program α) : Prop := ∀ t o, Runs p t o → EndsAtRefusal t o

namespace Program.GivesUp

theorem calm {p : Program α} (h : ∀ t o, Runs p t o → deletions t = []) : p.GivesUp :=
  fun t o hr => .inl (refusals_of_deletions (h t o hr))

theorem silent {p : Program α} (hp : p.Within isSilent) : p.GivesUp := by
  apply calm
  intro t o h
  rw [← deletions_steps, steps_of_silent hp h]
  rfl

theorem bind {p : Program α} {f : α → Program β} (hp : p.GivesUp) (hf : ∀ a, (f a).GivesUp) :
    (p >>= f).GivesUp := by
  intro t o h
  rcases runs_bind_iff.1 h with ⟨e, rfl, h₁⟩ | ⟨a, t₁, t₂, rfl, h₁, h₂⟩
  · rcases hp t _ h₁ with unrefused | ⟨before, x, kind, f, ht, hb, hx, ho⟩
    · exact .inl unrefused
    · cases ho
      exact .inr ⟨before, x, kind, e, ht, hb, hx, rfl⟩
  · have first : refusals t₁ = [] := by
      rcases hp t₁ _ h₁ with unrefused | ⟨_, _, _, _, _, _, _, ho⟩
      · exact unrefused
      · cases ho
    rcases hf a t₂ o h₂ with unrefused | ⟨before, x, kind, f, rfl, hb, hx, ho⟩
    · left
      rw [refusals_append, first, unrefused]
      rfl
    · refine .inr ⟨t₁ ++ before, x, kind, f, (List.append_assoc ..).symm, ?_, hx, ho⟩
      rw [refusals_append, first, hb]
      rfl

theorem foldlM {turn : β → ρ → Program β} (hturn : ∀ b x, (turn b x).GivesUp) (xs : List ρ)
    (b : β) : (xs.foldlM turn b).GivesUp := by
  induction xs generalizing b with
  | nil => exact silent trivial
  | cons x xs ih =>
    rw [List.foldlM_cons]
    exact (hturn b x).bind ih

theorem request {f : r.Reply → Program β}
    (hrefused : ∀ x kind e, Exchange.refusal? ⟨r, x⟩ = some (kind, e) → f x = .fail e)
    (hsilent : ∀ x, Exchange.refusal? ⟨r, x⟩ = none → (f x).Within isSilent) :
    (ask r >>= f).GivesUp := by
  rintro _ o ⟨x, rest, rfl, h⟩
  cases hx : Exchange.refusal? ⟨r, x⟩ with
  | none =>
    have others : refusals rest = [] := by
      apply refusals_of_deletions
      rw [← deletions_steps, steps_of_silent (hsilent x hx) h]
      rfl
    left
    rw [refusals, List.filterMap_cons, hx]
    exact others
  | some refused =>
    change Runs (f x) rest o at h
    rw [hrefused x _ _ hx] at h
    obtain ⟨rfl, rfl⟩ := h
    exact .inr ⟨[], _, _, _, rfl, rfl, hx, rfl⟩

end Program.GivesUp

namespace Access

theorem givesUp_fault {f : Fault} {job : Job} {kind : Kind} :
    (∀ kind' e, (if f.isNotFound then none else some (kind, f)) = some (kind', e) →
      (if f.isNotFound then do logDeleted text; pure job else .fail f) = Program.fail e) ∧
    ((if f.isNotFound then none else some (kind, f)) = none →
      (if f.isNotFound then do logDeleted text; pure job else .fail f).Within isSilent) := by
  by_cases hf : f.isNotFound
  · simp only [if_pos hf]
    constructor
    · intro _ _ h
      cases h
    · intro _
      exact .bind (within_ask fun _ => rfl) fun _ => trivial
  · simp only [if_neg hf]
    constructor
    · intro _ _ h
      cases h
      rfl
    · intro h
      cases h

theorem givesUp_delete (s : Settings) (kind : Kind) (target : Target) :
    (delete s kind target).GivesUp := by
  apply delete_of_both
  · apply GivesUp.request
    · rintro (f | _) kind' e hx
      · exact givesUp_fault.1 kind' e hx
      · cases hx
    · rintro (f | _) hx
      · exact givesUp_fault.2 hx
      · trivial
  · apply GivesUp.request
    · rintro (f | _) kind' e hx
      · exact givesUp_fault.1 kind' e hx
      · cases hx
    · rintro (f | _ | ticket) hx
      · exact givesUp_fault.2 hx
      · trivial
      · trivial

theorem givesUp_deleteConfirmed (s : Settings) (kind : Kind) (target : Target) :
    (do confirm s (← delete s kind target)).GivesUp :=
  (givesUp_delete s kind target).bind fun job => .silent (silent_confirm s job)

theorem givesUp_snapshot? (s : Settings) (kind : Kind) (target : Target)
    (ofObject : Value → Except Misuse α) : (snapshot? s kind target ofObject).GivesUp := by
  apply GivesUp.calm
  intro t o h
  obtain ⟨o', ho, _⟩ := runs_snapshot?_iff.1 h
  obtain ⟨replies, hr, _⟩ := steps_of_object ho
  rw [← deletions_steps, hr, Plan.deletions_reads]

end Access

namespace Cleanup
open Access

theorem givesUp_publicIp (s : Settings) (t : Tally) (r : Reference) : (publicIp s t r).GivesUp := by
  apply GivesUp.bind (.silent (silent_logStep _))
  intro _
  apply GivesUp.bind (givesUp_deleteConfirmed s .publicIp r.target)
  intro deleted
  exact .silent trivial

theorem givesUp_interface (s : Settings) (t : Tally) (r : Reference) :
    (interface s t r).GivesUp := by
  apply GivesUp.bind (givesUp_snapshot? s .nic r.target _)
  intro found
  apply GivesUp.bind (.silent (silent_logStep _))
  intro _
  apply GivesUp.bind (givesUp_delete s .nic r.target)
  intro job
  apply GivesUp.bind (.silent (silent_confirm s job))
  intro deleted
  exact .foldlM (givesUp_publicIp s) _ _

theorem givesUp_network (s : Settings) (m : Machine) : (network s m).GivesUp := by
  apply GivesUp.bind (.foldlM (givesUp_interface s) m.interfaces _)
  intro t
  dsimp only
  split
  · exact .silent trivial
  · exact .silent (.bind (silent_logTrouble _) fun _ => trivial)

theorem givesUp_requestDisk (s : Settings) (jobs : DiskJobs) (d : ManagedDisk) :
    (requestDisk s jobs d).GivesUp := by
  apply GivesUp.bind (.silent (within_misuse _))
  intro r
  apply GivesUp.bind (.silent (silent_logStep _))
  intro _
  apply GivesUp.bind (givesUp_delete s .disk r.target)
  intro job
  exact .silent trivial

theorem givesUp_disks (s : Settings) (m : Machine) : (disks s m).GivesUp := by
  apply GivesUp.bind (.foldlM (givesUp_requestDisk s) m.managedDisks _)
  intro jobs
  have waiting : (unconfirmed s jobs).Within isSilent :=
    (within_unconfirmed s jobs).mono fun _ => silent_of_followUp
  apply GivesUp.bind (.silent waiting)
  intro failed
  dsimp only
  split
  · exact .silent trivial
  · apply GivesUp.bind (.silent (within_misuse _))
    intro text
    exact .silent (.bind (silent_logTrouble _) fun _ => trivial)

theorem givesUp_availabilitySet (s : Settings) (m : Machine) : (availabilitySet s m).GivesUp := by
  unfold availabilitySet
  split
  · exact .silent trivial
  · apply GivesUp.bind (givesUp_snapshot? s .availabilitySet _ _)
    intro found
    apply GivesUp.bind (.silent (within_misuse _))
    intro orphaned
    split
    · apply GivesUp.bind (.silent (silent_logStep _))
      intro _
      exact givesUp_deleteConfirmed s .availabilitySet _
    · exact .silent trivial

theorem givesUp_present (s : Settings) (nodeId : String) (m : Machine) :
    (present s nodeId m).GivesUp := by
  have rest (f : Bool → Bool → Bool → Report) : (network s m >>= fun nics => disks s m >>= fun discs =>
      availabilitySet s m >>= fun shared => done (f nics discs shared)).GivesUp := by
    apply GivesUp.bind (givesUp_network s m)
    intro nics
    apply GivesUp.bind (givesUp_disks s m)
    intro discs
    apply GivesUp.bind (givesUp_availabilitySet s m)
    intro shared
    exact .silent trivial
  apply GivesUp.bind (.silent (silent_logStep _))
  intro _
  apply GivesUp.bind (givesUp_deleteConfirmed s .vm ⟨m.group, m.name⟩)
  intro vmDeleted
  dsimp only
  split
  · exact rest _
  · exact .bind (.silent (silent_logTrouble _)) fun _ => rest _

theorem givesUp_report (s : Settings) (nodeId : String) : (report s nodeId).GivesUp := by
  apply GivesUp.bind (.silent (within_ofExcept _))
  intro id
  apply GivesUp.bind (givesUp_snapshot? s .vm _ _)
  intro found
  cases found with
  | none => exact .silent (.bind (silent_logStep _) fun _ => trivial)
  | some m => exact givesUp_present s nodeId m

end Cleanup

/-- What the report says of the step that deletes resources of a kind. Security groups have none. -/
def Report.step? (out : Report) : Kind → Option Bool
  | .vm => some out.vmDeleted
  | .nic | .publicIp => some out.nicsDeleted
  | .disk => some out.disksDeleted
  | .availabilitySet => some out.availabilitySetDeleted
  | .securityGroup => none

namespace Cleanup

/-- A run that individual failures do not stop: a report comes back, all that goes with the machine was
asked to go, and each step in which a deletion was refused is reported as failed. -/
def Perseveres (s : Settings) (place : NodeId) (t : List Exchange) (o : Except Fault Report) : Prop :=
  ∃ out, o = .ok out ∧
    deletions t = (Plan.closure s place).deletions ((readings t).map Reading.object) ∧
    ∀ kind f, (kind, f) ∈ refusals t → out.step? kind = some false

/-- Whatever the provider answers, a refused deletion is the last thing that a cleanup asks for, and its
fault is the outcome. So where every other answer is plain the cleanup perseveres only if nothing is
refused. -/
theorem report_perseveres_iff_unrefused (w : World σ) (st : σ) (s : Settings) (nodeId : String) :
    let r := (report s nodeId).run w st
    EndsAtRefusal r.trace r.outcome ∧
      ∀ {place attempts key}, NodeId.parse nodeId = .ok place →
        Retry.granted s.retryAttempts = .ok attempts → 0 < attempts →
        s.ownershipKey.asKey = .ok key → (∀ x ∈ r.trace, x.IsPlain ∨ x.refusal?.isSome) →
        (Perseveres s place r.trace r.outcome ↔ refusals r.trace = []) := by
  intro r
  have hr : Runs (report s nodeId) r.trace r.outcome := runs_run w _ st
  have ends : EndsAtRefusal r.trace r.outcome := givesUp_report s nodeId _ _ hr
  refine ⟨ends, ?_⟩
  intro place attempts key hp hgranted hpos hkey hanswers
  constructor
  · rintro ⟨out, ho, _⟩
    rcases ends with unrefused | ⟨_, _, _, f, _, _, _, hf⟩
    · exact unrefused
    · rw [ho] at hf
      cases hf
  · intro unrefused
    have plain : ∀ x ∈ r.trace, x.IsPlain := by
      intro x hx
      have none_refused : x.refusal? = none := List.filterMap_eq_nil_iff.1 unrefused x hx
      exact (hanswers x hx).resolve_right (by rw [none_refused]; decide)
    obtain ⟨out, ho, _⟩ := (returns_report hgranted hpos hkey hp).of_runs hr plain
    rw [ho] at hr
    have whole := (follows_report hp).whole (Plan.spaced_closure s place) hr
    refine ⟨out, ho, whole.1, ?_⟩
    rw [unrefused]
    intro kind f hf
    cases hf

def inUse : Fault := .raised .http (some "in use") (some 409)

def refusing : World Unit where
  answer
    | .beginDelete .nic .., s => (.error inUse, s)
    | r, s => fading.answer r s

theorem isPlain_or_refused (r : Request) (st : Unit) :
    let x : Exchange := ⟨r, (refusing.answer r st).1⟩
    x.IsPlain ∨ x.refusal?.isSome := by
  cases r with
  | beginDelete kind target polling =>
    cases kind with
    | nic => exact .inr rfl
    | _ => exact .inl (isPlain_fading (.beginDelete _ target polling) st)
  | _ => exact .inl (isPlain_fading _ st)

theorem refusing_perseveres_iff :
    let r := (report plainSettings "rg1/vm1").run refusing ()
    Perseveres plainSettings ⟨"rg1", "vm1"⟩ r.trace r.outcome ↔ refusals r.trace = [] :=
  (report_perseveres_iff_unrefused refusing () plainSettings "rg1/vm1").2 rfl rfl (by decide) rfl
    (forall_mem_trace isPlain_or_refused _ _)

/-- The disk and the set of the machine stay, and no report comes back. -/
theorem refusing_not_persevered :
    let r := (report plainSettings "rg1/vm1").run refusing ()
    (∀ x ∈ r.trace, x.IsPlain ∨ x.refusal?.isSome) ∧
      ¬ Perseveres plainSettings ⟨"rg1", "vm1"⟩ r.trace r.outcome := by
  refine ⟨forall_mem_trace isPlain_or_refused _ _, ?_⟩
  rintro ⟨out, ho, _⟩
  cases ho

end Cleanup

end NodeReclaim
