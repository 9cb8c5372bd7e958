import NodeReclaim.Timer
import NodeReclaim.Program

/-! What a rehearsal holds: objects and groups in memory, answers prepared in advance, and a file
system of its own. -/
namespace NodeReclaim.Rehearsal

/-- A place as it is written in a path: null stands for a part that is not known. -/
def part : Value → String
  | .null => "null"
  | v => v.display

def place (target : Target) : String := part target.group ++ "/" ++ part target.name

structure Course where
  waitFault : Option Fault := none
  finished : Value := .bool true
  status : Value := .text "Succeeded"
  finishedFault : Option Fault := none
  statusFault : Option Fault := none

/-- An answer prepared for one call. A blank one leaves the answer to what is stored. -/
structure Turn where
  blank : Bool := true
  returned : Option Value := none
  fault : Option Fault := none
  nothing : Bool := false
  course : Course := {}

inductive Goal where
  | object (kind : Kind) (place : String)
  | group (name : String)
  | none
deriving DecidableEq, Repr

structure Operation where
  label : String
  course : Course
  goal : Goal

structure Store where
  objects : List (Kind × String × Value) := []
  groups : List (String × List Value) := []
  scripts : List (String × List Turn) := []
  operations : List Operation := []
  credentialFaults : CredentialKind → Option Fault := fun _ => none
  clientFaults : Service → Option Fault := fun _ => none
  outcomes : List (Except Fault Value) := []
  draws : List Float := []
  timer : Timer := Timer.skipping
  host : Host := ⟨[], [], []⟩
  files : List (Path × FileEntry) := []

namespace Store

def object? (s : Store) (kind : Kind) (place : String) : Option Value :=
  (s.objects.find? fun o => o.1 == kind && o.2.1 == place).map (·.2.2)

def removeObject (s : Store) (kind : Kind) (place : String) : Store :=
  { s with objects := s.objects.filter fun o => !(o.1 == kind && o.2.1 == place) }

def putObject (s : Store) (kind : Kind) (place : String) (object : Value) : Store :=
  let s := s.removeObject kind place
  { s with objects := s.objects ++ [(kind, place, object)] }

def group? (s : Store) (name : String) : Option (List Value) :=
  (s.groups.find? fun g => g.1 == name).map (·.2)

def removeGroup (s : Store) (name : String) : Store :=
  { s with groups := s.groups.filter fun g => g.1 != name }

def putGroup (s : Store) (name : String) (ids : List Value) : Store :=
  let s := s.removeGroup name
  { s with groups := s.groups ++ [(name, ids)] }

def addTurns (s : Store) (key : String) (turns : List Turn) : Store :=
  if s.scripts.any fun q => q.1 == key then
    { s with scripts := s.scripts.map fun q => if q.1 == key then (key, q.2 ++ turns) else q }
  else { s with scripts := s.scripts ++ [(key, turns)] }

/-- The next turn of a queue; an empty queue has blank ones. -/
def takeTurn (s : Store) (key : String) : Turn × Store :=
  match s.scripts.find? fun q => q.1 == key with
  | some (_, turn :: rest) =>
    (turn, { s with scripts := s.scripts.map fun q => if q.1 == key then (key, rest) else q })
  | _ => ({}, s)

def start (s : Store) (label : String) (course : Course) (goal : Goal) : Ticket × Store :=
  (⟨label, s.operations.length⟩, { s with operations := s.operations ++ [⟨label, course, goal⟩] })

def operation? (s : Store) (ticket : Ticket) : Option Operation := s.operations[ticket.number]?

def reach (s : Store) : Goal → Store
  | .object kind place => s.removeObject kind place
  | .group name => s.removeGroup name
  | .none => s

def placesOf (s : Store) (kind : Kind) : List String :=
  ((s.objects.filter fun o => o.1 == kind).map (·.2.1)).mergeSort fun a b => decide (a ≤ b)

def groupNames (s : Store) : List String :=
  (s.groups.map (·.1)).mergeSort fun a b => decide (a ≤ b)

/-- The entry at a path. Folders above an entry are there with it. -/
def entryAt (s : Store) (path : Path) : FileEntry :=
  match s.files.find? fun f => f.1 == path with
  | some (_, entry) => entry
  | none =>
    if path.isPrefixOf s.host.home || s.files.any fun f => path.isPrefixOf f.1 then .folder
    else .missing

end Store

end NodeReclaim.Rehearsal
