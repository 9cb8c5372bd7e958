import NodeReclaim.Cleanup.Node
import NodeReclaim.Proofs.Access
import NodeReclaim.Proofs.Rounds

/-! How operations are put together. A property that programs keep when they are put together holds of every
operation once it holds of the requests to the provider and of what comes between two tries. In this way an
operation is seen to ask for nothing but the provider's services and what the retry loop and the log need: it
makes no clients, reads no files and prints nothing. -/
namespace NodeReclaim
open Program

variable {good : (α : Type) → Program α → Prop}

namespace Program

/-- A property that programs keep when they are put together. -/
structure Composes (good : (α : Type) → Program α → Prop) : Prop where
  ofExcept {α : Type} (m : Except Fault α) : good α (.ofExcept m)
  bind {α β : Type} {p : Program α} {f : α → Program β} (hp : good α p) (hf : ∀ a, good β (f a)) :
    good β (p >>= f)
  attempt {α : Type} {p : Program α} (hp : good α p) : good (Except Fault α) p.attempt

theorem composes_within (allowed : Request → Prop) : Composes fun _ p => p.Within allowed where
  ofExcept := within_ofExcept
  bind := Within.bind
  attempt := Within.attempt

namespace Composes
variable (hg : Composes good)
include hg

theorem done (a : α) : good α (.done a) := hg.ofExcept (.ok a)

theorem fail (e : Fault) : good α (.fail e) := hg.ofExcept (.error e)

theorem misuse (m : Except Misuse α) : good α (.misuse m) := hg.ofExcept _

theorem require {r : Request} {h : r.Reply = Except Fault α} (hr : good r.Reply (ask r)) :
    good α (.require r h) := hg.bind hr fun _ => hg.ofExcept _

theorem recover {p : Program α} {handler : Fault → Program α} (hp : good α p)
    (hhandler : ∀ f, good α (handler f)) : good α (p.recover handler) := by
  rw [recover_eq]
  apply hg.bind (hg.attempt hp)
  rintro (f | a)
  · exact hhandler f
  · exact hg.done a

theorem foldlM {turn : β → ρ → Program β} (hturn : ∀ b x, good β (turn b x)) (xs : List ρ) (b : β) :
    good β (xs.foldlM turn b) := by
  induction xs generalizing b with
  | nil => exact hg.done b
  | cons x xs ih =>
    rw [List.foldlM_cons]
    exact hg.bind (hturn b x) ih

end Composes

end Program

/-! ### Reads

A read asks for its object, and besides only what the retry loop asks for. -/

section
variable (hg : Composes good) (logs : ∀ e, e.area = .retry → good Unit (ask (.log e)))
include hg logs

theorem Retry.good_attemptsFrom {p : Policy} {operation : Program α}
    (between : ∀ name number delay f, good Unit (interlude p name number delay f)) (hop : good α operation) :
    ∀ number delay, good α (attemptsFrom p name operation left number delay) := by
  induction left with
  | zero => exact fun _ _ => hg.fail _
  | succ left ih =>
    intro number delay
    apply hg.bind (hg.attempt hop)
    rintro (f | a)
    · dsimp only
      split
      · exact hg.fail f
      split
      · exact hg.bind (hg.misuse _) fun _ => hg.bind (logs _ rfl) fun _ => hg.fail f
      · have whole := hg.bind (between name number delay f) fun _ => ih (number + 1) (doubled delay)
        simpa only [interlude, LawfulMonad.bind_assoc] using whole
    · have counted : good String (progress p number) := hg.bind (hg.misuse _) fun _ => hg.done _
      dsimp only
      split
      · exact hg.bind counted fun _ => hg.bind (logs _ rfl) fun _ => hg.done a
      · exact hg.done a

theorem Retry.good_retrying {p : Policy} {operation : Program α}
    (between : ∀ name number delay f, good Unit (interlude p name number delay f)) (hop : good α operation) :
    good α (retrying p name operation) :=
  hg.bind (hg.misuse _) fun _ => good_attemptsFrom hg logs between hop _ _

end

namespace Access

theorem good_orIfAbsent (hg : Composes good) {p : Program α} (hp : good α p) : good α (orIfAbsent p absent) := by
  apply hg.recover hp
  intro f
  split
  · exact hg.done _
  · exact hg.fail f

theorem good_snapshot? (hg : Composes good) (read : good Value (object s kind target))
    (ofObject : Value → Except Misuse α) : good (Option α) (snapshot? s kind target ofObject) := by
  apply hg.bind read
  intro v
  split
  · exact hg.done none
  · exact hg.bind (hg.misuse _) fun _ => hg.done _

theorem within_snapshot? (own : ∀ r, Retry.isOwnRequest r → allowed r) (s : Settings)
    (hget : allowed (.get kind target)) (ofObject : Value → Except Misuse α) :
    (snapshot? s kind target ofObject).Within allowed := by
  apply good_snapshot? (composes_within allowed)
  apply good_orIfAbsent (composes_within allowed)
  apply Retry.good_retrying (composes_within allowed) (fun e _ => within_ask (own _ trivial))
  · exact fun name number delay f => (Retry.within_interlude _ name number delay f).mono own
  · exact within_require hget

end Access

/-! ### Operations -/

def isService : Request → Prop
  | .get .. | .beginDelete .. | .delete .. | .list _ | .beginDeleteGroup .. | .wait .. | .isDone _ | .status _
  | .log _ => True
  | _ => False

/-- A property that is kept and holds of all that an operation is made of. -/
structure Pervades (good : (α : Type) → Program α → Prop) (s : Settings) : Prop extends Composes good where
  ask (r : Request) (h : isService r) : good r.Reply (.ask r)
  interlude (name : String) (number : Nat) (delay : Value) (f : Fault) :
    good Unit (Retry.interlude (Access.policy s) name number delay f)

namespace Pervades
variable {s : Settings} (hg : Pervades good s)
include hg

theorem log (e : Entry) : good Unit (.ask (.log e)) := hg.ask (.log e) trivial

theorem logStep (text : String) : good Unit (Cleanup.logStep text) := hg.log _

theorem logTrouble (text : String) : good Unit (Cleanup.logTrouble text) := hg.log _

theorem retrying {operation : Program α} (hop : good α operation) :
    good α (Retry.retrying (Access.policy s) name operation) :=
  Retry.good_retrying hg.toComposes (fun e _ => hg.log e) hg.interlude hop

theorem snapshot? (kind : Kind) (target : Target) (ofObject : Value → Except Misuse α) :
    good (Option α) (Access.snapshot? s kind target ofObject) := by
  apply Access.good_snapshot? hg.toComposes
  apply Access.good_orIfAbsent hg.toComposes
  exact hg.retrying (hg.require (hg.ask (.get kind target) trivial))

theorem resources (group : Value) : good (List Value) (Access.resources s group) := by
  apply Access.good_orIfAbsent hg.toComposes
  apply hg.retrying
  rw [Access.listOnce_eq]
  exact hg.bind (hg.ask (.list group) trivial) fun _ => hg.ofExcept _

theorem gone {f : Fault} (text : String) (job : Job) :
    good Job (if f.isNotFound then do Access.logDeleted text; pure job else .fail f) := by
  split
  · exact hg.bind (hg.log _) fun _ => hg.done job
  · exact hg.fail f

theorem delete (kind : Kind) (target : Target) : good Job (Access.delete s kind target) := by
  apply Access.delete_of_both
  · apply hg.bind (hg.ask (.delete kind target) trivial)
    rintro (f | _)
    · exact hg.gone _ _
    · exact hg.done _
  · apply hg.bind (hg.ask (.beginDelete kind target _) trivial)
    rintro (f | _ | ticket)
    · exact hg.gone _ _
    · exact hg.done _
    · exact hg.done _

theorem deleteGroup (group : Value) : good Job (Access.deleteGroup s group) := by
  apply hg.bind (hg.ask (.beginDeleteGroup group _) trivial)
  rintro (f | ticket)
  · exact hg.gone _ _
  · exact hg.done _

theorem settle (timeout : Value) (ticket : Ticket) (label : String) :
    good Bool (Job.settle timeout ticket label) := by
  have status : good String (Job.statusText ticket) :=
    hg.bind (hg.require (hg.ask (.status ticket) trivial)) fun _ => hg.ofExcept _
  apply hg.bind (hg.require (hg.ask (.isDone ticket) trivial))
  intro finished
  split
  · exact hg.bind (hg.misuse _) fun _ => hg.bind (hg.log _) fun _ => hg.done false
  · apply hg.bind status
    intro found
    split
    · exact hg.done true
    · exact hg.bind status fun _ => hg.bind (hg.log _) fun _ => hg.done false

theorem confirm (job : Job) : good Bool (Access.confirm s job) := by
  rcases job with _ | ⟨_ | ticket, text⟩
  · exact hg.done true
  · exact hg.fail _
  · change good Bool (Job.confirmTicket s.deletionTimeout ticket _)
    rw [Access.confirmTicket_eq]
    apply hg.bind (hg.ask (.wait ticket s.deletionTimeout) trivial)
    rintro (f | _)
    · unfold Access.judged
      dsimp only
      split
      · exact hg.bind (hg.log _) fun _ => hg.done true
      · split
        · exact hg.bind (hg.log _) fun _ => hg.done false
        · exact hg.fail f
    · exact hg.settle _ _ _

theorem deleteConfirmed (kind : Kind) (target : Target) :
    good Bool (do Access.confirm s (← Access.delete s kind target)) :=
  hg.bind (hg.delete kind target) hg.confirm

theorem publicIp (t : Tally) (r : Reference) : good Tally (Cleanup.publicIp s t r) := by
  apply hg.bind (hg.logStep _)
  intro _
  exact hg.bind (hg.deleteConfirmed .publicIp r.target) fun _ => hg.done _

theorem interface (t : Tally) (r : Reference) : good Tally (Cleanup.interface s t r) := by
  apply hg.bind (hg.snapshot? .nic r.target _)
  intro found
  apply hg.bind (hg.logStep _)
  intro _
  apply hg.bind (hg.delete .nic r.target)
  intro job
  apply hg.bind (hg.confirm job)
  intro deleted
  exact hg.foldlM hg.publicIp _ _

theorem network (m : Machine) : good Bool (Cleanup.network s m) := by
  apply hg.bind (hg.foldlM hg.interface m.interfaces _)
  intro t
  dsimp only
  split
  · exact hg.done _
  · exact hg.bind (hg.logTrouble _) fun _ => hg.done _

theorem unconfirmed (jobs : Cleanup.DiskJobs) : good (List (Option String)) (Cleanup.unconfirmed s jobs) := by
  induction jobs with
  | nil => exact hg.done []
  | cons j rest ih =>
    apply hg.bind (hg.confirm j.2)
    intro deleted
    exact hg.bind ih fun _ => hg.done _

theorem requestDisk (jobs : Cleanup.DiskJobs) (d : ManagedDisk) :
    good Cleanup.DiskJobs (Cleanup.requestDisk s jobs d) := by
  apply hg.bind (hg.misuse _)
  intro r
  apply hg.bind (hg.logStep _)
  intro _
  exact hg.bind (hg.delete .disk r.target) fun _ => hg.done _

theorem disks (m : Machine) : good Bool (Cleanup.disks s m) := by
  apply hg.bind (hg.foldlM hg.requestDisk m.managedDisks _)
  intro jobs
  apply hg.bind (hg.unconfirmed jobs)
  intro failed
  dsimp only
  split
  · exact hg.done _
  · exact hg.bind (hg.misuse _) fun _ => hg.bind (hg.logTrouble _) fun _ => hg.done _

theorem availabilitySet (m : Machine) : good Bool (Cleanup.availabilitySet s m) := by
  unfold Cleanup.availabilitySet
  split
  · exact hg.done true
  · apply hg.bind (hg.snapshot? .availabilitySet _ _)
    intro found
    apply hg.bind (hg.misuse _)
    intro orphaned
    split
    · exact hg.bind (hg.logStep _) fun _ => hg.deleteConfirmed .availabilitySet _
    · exact hg.done true

theorem present (nodeId : String) (m : Machine) : good Report (Cleanup.present s nodeId m) := by
  have rest (f : Bool → Bool → Bool → Report) : good Report (Cleanup.network s m >>= fun nics =>
      Cleanup.disks s m >>= fun discs => Cleanup.availabilitySet s m >>= fun shared =>
        .done (f nics discs shared)) :=
    hg.bind (hg.network m) fun _ => hg.bind (hg.disks m) fun _ =>
      hg.bind (hg.availabilitySet m) fun _ => hg.done _
  apply hg.bind (hg.logStep _)
  intro _
  apply hg.bind (hg.deleteConfirmed .vm ⟨m.group, m.name⟩)
  intro vmDeleted
  dsimp only
  split
  · exact rest _
  · exact hg.bind (hg.logTrouble _) fun _ => rest _

theorem report (nodeId : String) : good Report (Cleanup.report s nodeId) := by
  apply hg.bind (hg.ofExcept _)
  intro id
  apply hg.bind (hg.snapshot? .vm _ _)
  intro found
  cases found with
  | none => exact hg.bind (hg.logStep _) fun _ => hg.done _
  | some m => exact hg.present nodeId m

theorem securityGroup (levels : Nat) (resourceGroup group : Value) :
    good Bool (Cleanup.securityGroup s resourceGroup group levels) := by
  have unguarded : good Bool (Cleanup.unguardedSecurityGroup s levels resourceGroup group) := by
    apply hg.bind (hg.ofExcept _)
    intro name
    apply hg.bind (hg.snapshot? .securityGroup _ _)
    rintro (_ | found)
    · exact hg.done false
    · dsimp only
      split
      · exact hg.done false
      · exact hg.bind (hg.logStep _) fun _ => hg.deleteConfirmed .securityGroup _
  have guarded (text : String) : good (Except Fault Bool)
      ((Cleanup.unguardedSecurityGroup s levels resourceGroup group).guarded text) := by
    apply hg.bind (hg.attempt unguarded)
    rintro (f | deleted)
    · exact hg.bind (hg.log _) fun _ => hg.done _
    · exact hg.done _
  exact hg.bind (guarded _) fun _ => hg.done _

theorem resourceGroup (group : Value) : good Bool (Cleanup.resourceGroup s group) := by
  apply hg.bind (hg.resources group)
  intro ids
  split
  · apply hg.bind (hg.logStep _)
    intro _
    exact hg.bind (hg.deleteGroup group) hg.confirm
  · exact hg.done false

end Pervades

/-! ### What operations ask for -/

def isOperational : Request → Prop
  | .pause _ | .draw => True
  | r => isService r

theorem pervades_operational (s : Settings) : Pervades (fun _ p => p.Within isOperational) s where
  toComposes := composes_within isOperational
  ask r h := within_ask (by cases r <;> trivial)
  interlude name number delay f :=
    (Retry.within_interlude _ name number delay f).mono fun r h => by cases r <;> trivial

end NodeReclaim
