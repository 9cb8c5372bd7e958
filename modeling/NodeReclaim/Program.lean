import NodeReclaim.Fault
import NodeReclaim.Journal
import NodeReclaim.Resource

/-! Programs as trees of requests. A node asks the world one thing and goes on with the reply, so
every provider call, wait, pause and log entry of a run can be read off the tree. A program ends
with a value or with a fault. -/
namespace NodeReclaim

/-- What a listing yielded before it ended, and the fault that ended it early, if any. -/
structure Listing where
  ids : List Value
  fault : Option Fault := none

inductive FileEntry where
  | missing
  | folder
  | file (bytes : ByteArray)
  | link (target : String)

abbrev Path := List String

structure Host where
  home : Path
  current : Path
  environment : List (String × String)

inductive Stream where
  | out
  | err
deriving DecidableEq, Repr

/-- What a message shows of a status, unless it cannot be written. -/
abbrev Written := Except Fault String

inductive Request where
  | get (kind : Kind) (target : Target)
  | beginDelete (kind : Kind) (target : Target) (polling : Value)
  | delete (kind : Kind) (target : Target)
  | list (group : Value)
  | beginDeleteGroup (group polling : Value)
  | wait (ticket : Ticket) (timeout : Value)
  | isDone (ticket : Ticket)
  | status (ticket : Ticket)
  | credential (kind : CredentialKind)
  | client (service : Service) (credential subscription : Value) (options : Table)
  | invoke (arguments : List Value) (named : Table)
  | pause (seconds : Value)
  | draw
  | log (entry : Entry)
  | host
  | look (path : Path)
  | print (stream : Stream) (line : String)

@[reducible] def Request.Reply : Request → Type
  | get .. => Except Fault Value
  | beginDelete .. | beginDeleteGroup .. => Except Fault (Option Ticket)
  | delete .. | wait .. | client .. => Except Fault Unit
  | list _ => Listing
  | isDone _ | credential _ | invoke .. => Except Fault Value
  | status _ => Except Fault Written
  | pause _ => Except PauseError Unit
  | log _ | print .. => Unit
  | draw => Float
  | host => Host
  | look _ => FileEntry

inductive Program (α : Type) where
  | done (a : α)
  | fail (f : Fault)
  | step (r : Request) (next : r.Reply → Program α)

namespace Program

def bind (p : Program α) (f : α → Program β) : Program β :=
  match p with
  | done a => f a
  | fail e => fail e
  | step r next => step r fun x => (next x).bind f

instance : Monad Program where
  pure := done
  bind := bind

@[simp] theorem pure_eq (a : α) : (pure a : Program α) = done a := rfl

@[simp] theorem done_bind (a : α) (f : α → Program β) : done a >>= f = f a := rfl

@[simp] theorem fail_bind (e : Fault) (f : α → Program β) :
    (fail e : Program α) >>= f = fail e := rfl

@[simp] theorem step_bind (r : Request) (next : r.Reply → Program α) (f : α → Program β) :
    step r next >>= f = step r fun x => next x >>= f := rfl

theorem bind_done (p : Program α) : p >>= done = p := by
  induction p with
  | done a => rfl
  | fail e => rfl
  | step r next ih => simp only [step_bind, ih]

theorem bind_assoc (p : Program α) (f : α → Program β) (g : β → Program γ) :
    p >>= f >>= g = p >>= fun a => f a >>= g := by
  induction p with
  | done a => rfl
  | fail e => rfl
  | step r next ih => simp only [step_bind, ih]

instance : LawfulMonad Program :=
  LawfulMonad.mk' Program bind_done (fun _ _ => rfl) bind_assoc

def ask (r : Request) : Program r.Reply := step r done

def ofExcept : Except Fault α → Program α
  | .ok a => done a
  | .error e => fail e

def attempt (p : Program α) : Program (Except Fault α) :=
  match p with
  | done a => done (.ok a)
  | fail e => done (.error e)
  | step r next => step r fun x => (next x).attempt

def recover (p : Program α) (handler : Fault → Program α) : Program α :=
  match p with
  | done a => done a
  | fail e => handler e
  | step r next => step r fun x => (next x).recover handler

theorem recover_eq (p : Program α) (handler : Fault → Program α) :
    p.recover handler = p.attempt >>= fun
      | .ok a => done a
      | .error e => handler e := by
  induction p with
  | done a => rfl
  | fail e => rfl
  | step r next ih => simp only [recover, attempt, step_bind, ih]

/-- Asks, and ends with the fault when the reply is one. -/
def require (r : Request) (h : r.Reply = Except Fault α) : Program α := do
  ofExcept (h ▸ (← ask r))

def misuse (m : Except Misuse α) : Program α := ofExcept (m.mapError .misuse)

def log (level : Level) (area : Area) (text : String) : Program Unit :=
  ask (.log { level, area, text })

def print (stream : Stream) (line : String) : Program Unit := ask (.print stream line)

end Program

end NodeReclaim
