import NodeReclaim.Deletion.Job
import NodeReclaim.Retry.Loop
import NodeReclaim.Settings
import NodeReclaim.Snapshot

/-! Access to the provider's resources under given settings. Reads are retried, deletes are asked
for once, and what the provider does not have counts as absent in the one and as gone in the
other. -/
namespace NodeReclaim

namespace Reference

def target (r : Reference) : Target := ⟨.ofOption r.group, .ofOption r.name⟩

def shownName (r : Reference) : String := (Value.ofOption r.name).display

end Reference

namespace Access
open Program

def policy (s : Settings) : Retry.Policy where
  attempts := s.retryAttempts
  initialDelay := s.retryInitialDelay
  maxDelay := s.retryMaxDelay

/-- A fault that says there is no such resource becomes a default. -/
def orIfAbsent (p : Program α) (absent : α) : Program α :=
  p.recover fun f => if f.isNotFound then pure absent else .fail f

def object (s : Settings) (kind : Kind) (target : Target) : Program Value :=
  orIfAbsent (Retry.retrying (policy s) "get" (require (.get kind target) rfl)) .null

def snapshot? (s : Settings) (kind : Kind) (target : Target)
    (ofObject : Value → Except Misuse α) : Program (Option α) := do
  match ← object s kind target with
  | .null => pure none
  | v => return some (← misuse (ofObject v))

def machine? (s : Settings) (target : Target) : Program (Option Machine) :=
  snapshot? s .vm target fun v => Machine.ofObject v target.group

def interface? (s : Settings) (target : Target) : Program (Option Interface) :=
  snapshot? s .nic target Interface.ofObject

def availabilitySet? (s : Settings) (target : Target) : Program (Option AvailabilitySet) :=
  snapshot? s .availabilitySet target AvailabilitySet.ofObject

def securityGroup? (s : Settings) (target : Target) : Program (Option SecurityGroup) :=
  snapshot? s .securityGroup target SecurityGroup.ofObject

/-- What an operation does. Names that no message can show, such as integers of thousands of digits, are left out. -/
def description (kind : Kind) (target : Target) : String :=
  "deletion of " ++ kind.label ++ " " ++ target.name.display ++ " in " ++ target.group.display

def logDeleted (subject : String) : Program Unit :=
  .log .debug .access (subject ++ " already deleted")

def subject (kind : Kind) (target : Target) : String := kind.label ++ " " ++ target.name.display

/-- Starts a deletion that the provider finishes later, unless it has nothing to do. -/
def beginDelete (s : Settings) (kind : Kind) (target : Target) : Program Job := do
  match ← ask (.beginDelete kind target s.pollingInterval) with
  | .ok (some ticket) => pure (.pending ticket (description kind target))
  | .ok none => pure (.done (description kind target))
  | .error f =>
    if f.isNotFound then
      logDeleted (subject kind target)
      pure (.done (description kind target))
    else .fail f

def deleteNow (kind : Kind) (target : Target) : Program Job := do
  match ← ask (.delete kind target) with
  | .ok () => pure (.done (description kind target))
  | .error f =>
    if f.isNotFound then
      logDeleted (subject kind target)
      pure (.done (description kind target))
    else .fail f

/-- Only availability sets are deleted at once. -/
def delete (s : Settings) (kind : Kind) (target : Target) : Program Job :=
  match kind with
  | .availabilitySet => deleteNow kind target
  | _ => beginDelete s kind target

def confirm (s : Settings) (job : Job) : Program Bool := job.confirm s.deletionTimeout

def deletePublicIp (s : Settings) (target : Target) : Program Bool := do
  confirm s (← delete s .publicIp target)

/-- One listing of a group; ids that came before a fault are dropped. -/
def listOnce (group : Value) : Program (List Value) := do
  let listing ← (ask (.list group) : Program Listing)
  match listing.fault with
  | none => pure listing.ids
  | some f => .fail f

def resources (s : Settings) (group : Value) : Program (List Value) :=
  orIfAbsent (Retry.retrying (policy s) "list_ids" (listOnce group)) []

/-- Starts the deletion of a group. The job is pending even without a ticket. -/
def deleteGroup (s : Settings) (group : Value) : Program Job := do
  let description := "deletion of resource group " ++ group.display
  match ← ask (.beginDeleteGroup group s.pollingInterval) with
  | .ok ticket => pure (.pending ticket description)
  | .error f =>
    if f.isNotFound then
      logDeleted ("resource group " ++ group.display)
      pure (.done description)
    else .fail f

def credential (s : Settings) (given : Value) : Program Value :=
  if given.isTruthy then pure given else require (.credential s.credential) rfl

/-- Makes the clients of the three services. Their own retries are off unless the options turn
them on. -/
def clients (s : Settings) (given : Value) (options : Table) : Program Unit := do
  let options := Table.overlay [("retry_total", .int 0)] options
  let credential ← credential s given
  require (.client .compute credential s.subscription options) rfl
  require (.client .network credential s.subscription options) rfl
  require (.client .resource credential s.subscription options) rfl

def connect (s : Settings) (given : Value := .null) (options : Table := []) : Program Unit :=
  if s.subscription.isTruthy then
    (clients s given options).recover fun f => .fail (.clients (.construction f.message))
  else .fail (.clients .noSubscription)

end Access

end NodeReclaim
