import NodeReclaim.Program.Run
import NodeReclaim.Rehearsal.Store
import NodeReclaim.Value.Shown

/-! A rehearsal as a world: it answers every request from what it holds. -/
namespace NodeReclaim.Rehearsal
open Store

def kindName : Kind → String
  | .vm => "vm"
  | .nic => "nic"
  | .publicIp => "public_ip"
  | .disk => "disk"
  | .availabilitySet => "availability_set"
  | .securityGroup => "security_group"

def notFound (what : String) : Fault := .raised .notFound (some (what ++ " not found")) none

def labelOf (kind : Kind) (target : Target) : String := kindName kind ++ " " ++ place target

def Turn.refusal? (t : Turn) : Option Fault := if t.returned.isSome then none else t.fault

def get (kind : Kind) (target : Target) (s : Store) : Except Fault Value × Store :=
  let (turn, s) := s.takeTurn ("get " ++ labelOf kind target)
  match turn.refusal?, turn.returned, s.object? kind (place target) with
  | some f, _, _ => (.error f, s)
  | none, some v, _ => (.ok v, s)
  | none, none, some v => (.ok v, s)
  | none, none, none => (.error (notFound (labelOf kind target)), s)

def beginDelete (kind : Kind) (target : Target) (s : Store) :
    Except Fault (Option Ticket) × Store :=
  let (turn, s) := s.takeTurn ("delete " ++ labelOf kind target)
  match turn.refusal? with
  | some f => (.error f, s)
  | none =>
    if turn.blank && (s.object? kind (place target)).isNone then
      (.error (notFound (labelOf kind target)), s)
    else if turn.nothing then (.ok none, s.removeObject kind (place target))
    else
      let (ticket, s) := s.start (labelOf kind target) turn.course (.object kind (place target))
      (.ok (some ticket), s)

def delete (kind : Kind) (target : Target) (s : Store) : Except Fault Unit × Store :=
  let (turn, s) := s.takeTurn ("delete " ++ labelOf kind target)
  match turn.refusal? with
  | some f => (.error f, s)
  | none =>
    if (s.object? kind (place target)).isNone then
      (.error (notFound (labelOf kind target)), s)
    else (.ok (), s.removeObject kind (place target))

def list (group : Value) (s : Store) : Listing × Store :=
  let name := part group
  let (turn, s) := s.takeTurn ("list " ++ name)
  match turn.refusal?, turn.returned, s.group? name with
  | some f, _, _ => (⟨[], some f⟩, s)
  | none, some (.list ids), _ => (⟨ids, turn.fault⟩, s)
  | none, some _, _ => (⟨[], turn.fault⟩, s)
  | none, none, some ids => (⟨ids, none⟩, s)
  | none, none, none => (⟨[], some (notFound ("group " ++ name))⟩, s)

def beginDeleteGroup (group : Value) (s : Store) : Except Fault (Option Ticket) × Store :=
  let name := part group
  let (turn, s) := s.takeTurn ("delete_group " ++ name)
  match turn.refusal? with
  | some f => (.error f, s)
  | none =>
    if turn.blank && (s.group? name).isNone then (.error (notFound ("group " ++ name)), s)
    else if turn.nothing then (.ok none, s)
    else
      let (ticket, s) := s.start ("group " ++ name) turn.course (.group name)
      (.ok (some ticket), s)

def successes : List String := ["Succeeded", "succeeded", "SUCCEEDED"]

def Course.reachesGoal (c : Course) : Bool :=
  c.finished.isTruthy && match c.status with
    | .text status => successes.contains status
    | _ => false

def wait (ticket : Ticket) (s : Store) : Except Fault Unit × Store :=
  match s.operation? ticket with
  | none => (.ok (), s)
  | some o =>
    match o.course.waitFault with
    | some f => (.error f, s)
    | none => (.ok (), if o.course.reachesGoal then s.reach o.goal else s)

def asked (fault : Option Fault) (v : Value) : Except Fault Value :=
  match fault with
  | some f => .error f
  | none => .ok v

def isDone (ticket : Ticket) (s : Store) : Except Fault Value :=
  match s.operation? ticket with
  | none => .ok .null
  | some o => asked o.course.finishedFault o.course.finished

def written (v : Value) : Written := (v.shown Value.usualLevels).mapError .misuse

def statusOf (ticket : Ticket) (s : Store) : Except Fault Written :=
  match s.operation? ticket with
  | none => .ok (written .null)
  | some o => (asked o.course.statusFault o.course.status).map written

def invoke (s : Store) : Except Fault Value × Store :=
  match s.outcomes with
  | outcome :: rest => (outcome, { s with outcomes := rest })
  | [] => (.ok (.text "exhausted"), s)

def draw (s : Store) : Float × Store :=
  match s.draws with
  | x :: rest => (x, { s with draws := rest })
  | [] => (0.5, s)

def failing (fault : Option Fault) : Except Fault Unit :=
  match fault with
  | some f => .error f
  | none => .ok ()

def answer (r : Request) (s : Store) : r.Reply × Store :=
  match r with
  | .get kind target => get kind target s
  | .beginDelete kind target _ => beginDelete kind target s
  | .delete kind target => delete kind target s
  | .list group => list group s
  | .beginDeleteGroup group _ => beginDeleteGroup group s
  | .wait ticket _ => wait ticket s
  | .isDone ticket => (isDone ticket s, s)
  | .status ticket => (statusOf ticket s, s)
  | .credential kind => (asked (s.credentialFaults kind) (.text kind.name), s)
  | .client service _ _ _ => (failing (s.clientFaults service), s)
  | .invoke _ _ => invoke s
  | .pause seconds => (s.timer seconds, s)
  | .draw => draw s
  | .log _ => ((), s)
  | .host => (s.host, s)
  | .look path => (s.entryAt path, s)
  | .print _ _ => ((), s)

end Rehearsal

def rehearsal : World Rehearsal.Store := ⟨Rehearsal.answer⟩

end NodeReclaim
