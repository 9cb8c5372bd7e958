import NodeReclaim.Proofs.Likeness
import NodeReclaim.Proofs.Operations

/-! No step of a cleanup looks into a ticket: each is like itself, whatever tickets its jobs have. The deletion of
the machine, which is what may differ, is left out. -/
namespace NodeReclaim
open Program

variable {tickets : Ticket → Ticket → Prop}

/-- Jobs for the same thing, as far as tickets allow. -/
inductive Job.Alike (tickets : Ticket → Ticket → Prop) : Job → Job → Prop
  | done (text : String) : Alike tickets (.done text) (.done text)
  | pending (h : tickets i j) (text : String) : Alike tickets (.pending (some i) text) (.pending (some j) text)
  | stray (text : String) : Alike tickets (.pending none text) (.pending none text)

theorem Job.Alike.isPending (h : Job.Alike tickets a b) : a.isPending = b.isPending := by
  cases h <;> rfl

namespace Access

theorem isTicketless_of_own (r : Request) (h : Retry.isOwnRequest r) : isTicketless r := by
  cases r <;> trivial

theorem ticketless_snapshot? (s : Settings) (kind : Kind) (hkind : kind ≠ .vm) (target : Target)
    (ofObject : Value → Except Misuse α) : (snapshot? s kind target ofObject).Within isTicketless :=
  within_snapshot? isTicketless_of_own s hkind ofObject

theorem alike_gone (f : Fault) (text description : String) :
    Alike tickets (Job.Alike tickets)
      (if f.isNotFound then do logDeleted text; pure (.done description) else .fail f)
      (if f.isNotFound then do logDeleted text; pure (.done description) else .fail f) := by
  split
  · exact .after (within_ask trivial) fun _ => .done (.done description)
  · exact .fail f

theorem alike_deleteNow (hkind : kind ≠ .vm) (target : Target) :
    Alike tickets (Job.Alike tickets) (deleteNow kind target) (deleteNow kind target) := by
  have asked : (ask (.delete kind target)).Within isTicketless := within_ask hkind
  apply Alike.after asked
  rintro (f | _)
  · exact alike_gone f _ _
  · exact .done (.done _)

def answered (kind : Kind) (target : Target) : Except Fault (Option Ticket) → Program Job
  | .ok (some ticket) => pure (.pending ticket (description kind target))
  | .ok none => pure (.done (description kind target))
  | .error f =>
    if f.isNotFound then do
      logDeleted (subject kind target)
      pure (.done (description kind target))
    else .fail f

theorem beginDelete_eq (s : Settings) (kind : Kind) (target : Target) :
    beginDelete s kind target = ask (.beginDelete kind target s.pollingInterval) >>= answered kind target := by
  apply congrArg (ask (.beginDelete kind target s.pollingInterval) >>= ·)
  funext reply
  rcases reply with _ | _ | _ <;> rfl

theorem alike_beginDelete (s : Settings) (kind : Kind) (hkind : kind ≠ .vm) (target : Target) :
    Alike tickets (Job.Alike tickets) (beginDelete s kind target) (beginDelete s kind target) := by
  refine .step (.beginDelete hkind target s.pollingInterval) fun x₁ x₂ answered => ?_
  cases answered with
  | plain plain => cases plain
  | refused kind target polling f => exact alike_gone f _ _
  | idle => exact .done (.done _)
  | begun h => exact .done (.pending h _)

theorem alike_delete (s : Settings) (kind : Kind) (hkind : kind ≠ .vm) (target : Target) :
    Alike tickets (Job.Alike tickets) (delete s kind target) (delete s kind target) := by
  cases kind with
  | availabilitySet => exact alike_deleteNow hkind target
  | _ => exact alike_beginDelete s _ hkind target

theorem alike_isDone (h : tickets i j) :
    Alike tickets (· = ·) (require (.isDone i) rfl) (require (.isDone j) rfl) := by
  refine .step (.isDone h) fun x₁ x₂ answered => ?_
  cases answered with
  | plain plain => cases plain
  | isDone => exact .of_within (within_ofExcept x₁)

theorem alike_statusText (h : tickets i j) :
    Alike tickets (· = ·) (Job.statusText i) (Job.statusText j) := by
  refine .step (.status h) fun x₁ x₂ answered => ?_
  cases answered with
  | plain plain => cases plain
  | status => exact .of_within ((within_ofExcept x₁).bind fun _ => within_ofExcept _)

theorem alike_settle (h : tickets i j) (timeout : Value) (label : String) :
    Alike tickets (· = ·) (Job.settle timeout i label) (Job.settle timeout j label) := by
  apply (alike_isDone h).bind
  rintro finished _ rfl
  split
  · exact .after (within_misuse _) fun _ => .after (within_ask trivial) fun _ => .done rfl
  · apply (alike_statusText h).bind
    rintro status _ rfl
    split
    · exact .done rfl
    · apply (alike_statusText h).bind
      rintro shown _ rfl
      exact .after (within_ask trivial) fun _ => .done rfl

theorem alike_judged (h : tickets i j) (timeout : Value) (label : String) (reply : Except Fault Unit) :
    Alike tickets (· = ·) (judged timeout i label reply) (judged timeout j label reply) := by
  rcases reply with f | _
  · unfold judged
    dsimp only
    split
    · exact .after (within_ask trivial) fun _ => .done rfl
    · split
      · exact .after (within_ask trivial) fun _ => .done rfl
      · exact .fail f
  · exact alike_settle h timeout label

theorem alike_confirm (s : Settings) (h : Job.Alike tickets a b) :
    Alike tickets (· = ·) (confirm s a) (confirm s b) := by
  cases h with
  | done text => exact .done rfl
  | stray text => exact .fail _
  | @pending i j h text =>
    change Alike tickets _ (Job.confirmTicket s.deletionTimeout i _) (Job.confirmTicket s.deletionTimeout j _)
    rw [confirmTicket_eq, confirmTicket_eq]
    refine .step (.wait h s.deletionTimeout) fun x₁ x₂ answered => ?_
    cases answered with
    | plain plain => cases plain
    | wait => exact alike_judged h s.deletionTimeout _ x₁

theorem alike_deleteConfirmed (s : Settings) (kind : Kind) (hkind : kind ≠ .vm) (target : Target) :
    Alike tickets (· = ·) (do confirm s (← delete s kind target)) (do confirm s (← delete s kind target)) :=
  (alike_delete s kind hkind target).bind fun _ _ => alike_confirm s

end Access

namespace Cleanup
open Access

theorem ticketless_logStep (text : String) : (logStep text).Within isTicketless := within_ask trivial

theorem ticketless_logTrouble (text : String) : (logTrouble text).Within isTicketless := within_ask trivial

theorem alike_publicIp (s : Settings) (t : Tally) (r : Reference) :
    Alike tickets (· = ·) (publicIp s t r) (publicIp s t r) := by
  apply Alike.after (ticketless_logStep _)
  intro _
  apply (alike_deleteConfirmed s .publicIp nofun r.target).bind
  rintro deleted _ rfl
  exact .done rfl

theorem alike_interface (s : Settings) (t : Tally) (r : Reference) :
    Alike tickets (· = ·) (interface s t r) (interface s t r) := by
  apply Alike.after (ticketless_snapshot? s .nic nofun r.target _)
  intro found
  apply Alike.after (ticketless_logStep _)
  intro _
  apply (alike_delete s .nic nofun r.target).bind
  intro a b h
  apply (alike_confirm s h).bind
  rintro deleted _ rfl
  refine .foldlM ?_ _ rfl
  rintro t _ r rfl
  exact alike_publicIp s t r

theorem alike_network (s : Settings) (m : Machine) : Alike tickets (· = ·) (network s m) (network s m) := by
  have interfaces : Alike tickets (· = ·) (m.interfaces.foldlM (interface s) {})
      (m.interfaces.foldlM (interface s) {}) := by
    refine .foldlM ?_ _ rfl
    rintro t _ r rfl
    exact alike_interface s t r
  apply interfaces.bind
  rintro t _ rfl
  dsimp only
  split
  · exact .done rfl
  · exact .after (ticketless_logTrouble _) fun _ => .done rfl

def JobsAlike (tickets : Ticket → Ticket → Prop) : DiskJobs → DiskJobs → Prop :=
  List.Forall₂ fun a b => a.1 = b.1 ∧ Job.Alike tickets a.2 b.2

theorem JobsAlike.any {jobs₁ jobs₂ : DiskJobs} (h : JobsAlike tickets jobs₁ jobs₂) (name : Option String) :
    (jobs₁.any fun j => j.1 == name) = jobs₂.any fun j => j.1 == name := by
  induction h with
  | nil => rfl
  | cons first _ ih => rw [List.any_cons, List.any_cons, first.1, ih]

theorem JobsAlike.replaced {jobs₁ jobs₂ : DiskJobs} (h : JobsAlike tickets jobs₁ jobs₂) (name : Option String)
    (job : Job.Alike tickets a b) :
    JobsAlike tickets (jobs₁.map fun j => if j.1 == name then (name, a) else j)
      (jobs₂.map fun j => if j.1 == name then (name, b) else j) := by
  induction h with
  | nil => exact .nil
  | cons first _ ih =>
    refine .cons ?_ ih
    dsimp only
    rw [first.1]
    split
    · exact ⟨rfl, job⟩
    · exact first

theorem JobsAlike.put {jobs₁ jobs₂ : DiskJobs} (h : JobsAlike tickets jobs₁ jobs₂) (name : Option String)
    (job : Job.Alike tickets a b) : JobsAlike tickets (jobs₁.put name a) (jobs₂.put name b) := by
  unfold DiskJobs.put
  rw [h.any name]
  split
  · exact h.replaced name job
  · exact List.rel_append h (.cons ⟨rfl, job⟩ .nil)

theorem alike_requestDisk (s : Settings) (d : ManagedDisk) {jobs₁ jobs₂ : DiskJobs}
    (h : JobsAlike tickets jobs₁ jobs₂) :
    Alike tickets (JobsAlike tickets) (requestDisk s jobs₁ d) (requestDisk s jobs₂ d) := by
  apply Alike.after (within_misuse _)
  intro r
  apply Alike.after (ticketless_logStep _)
  intro _
  apply (alike_delete s .disk nofun r.target).bind
  intro a b job
  rw [job.isPending]
  split
  · exact .done (h.put r.name job)
  · exact .done h

theorem alike_unconfirmed (s : Settings) {jobs₁ jobs₂ : DiskJobs} (h : JobsAlike tickets jobs₁ jobs₂) :
    Alike tickets (· = ·) (unconfirmed s jobs₁) (unconfirmed s jobs₂) := by
  induction h with
  | nil => exact .done rfl
  | @cons a b _ _ first _ ih =>
    apply (alike_confirm s first.2).bind
    rintro deleted _ rfl
    apply ih.bind
    rintro others _ rfl
    rw [first.1]
    exact .done rfl

theorem alike_disks (s : Settings) (m : Machine) : Alike tickets (· = ·) (disks s m) (disks s m) := by
  have requested : Alike tickets (JobsAlike tickets) (m.managedDisks.foldlM (requestDisk s) [])
      (m.managedDisks.foldlM (requestDisk s) []) :=
    .foldlM (fun _ _ d => alike_requestDisk s d) _ .nil
  apply requested.bind
  intro jobs₁ jobs₂ h
  apply (alike_unconfirmed s h).bind
  rintro failed _ rfl
  dsimp only
  split
  · exact .done rfl
  · exact .after (within_misuse _) fun _ => .after (ticketless_logTrouble _) fun _ => .done rfl

theorem alike_availabilitySet (s : Settings) (m : Machine) :
    Alike tickets (· = ·) (availabilitySet s m) (availabilitySet s m) := by
  unfold availabilitySet
  split
  · exact .done rfl
  · apply Alike.after (ticketless_snapshot? s .availabilitySet nofun _ _)
    intro found
    apply Alike.after (within_misuse _)
    intro orphaned
    split
    · exact .after (ticketless_logStep _) fun _ => alike_deleteConfirmed s .availabilitySet nofun _
    · exact .done rfl

end Cleanup

end NodeReclaim
