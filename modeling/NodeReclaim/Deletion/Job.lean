import NodeReclaim.Text.Lower
import NodeReclaim.Program
import NodeReclaim.Value.Order

/-! Deletion jobs and their confirmation. A job is over at once or waits for an operation of the
provider; confirming it tells whether the resource is gone. -/
namespace NodeReclaim

/-- A pending job may lack its ticket when the provider gave none. -/
inductive Job where
  | done (description : String)
  | pending (ticket : Option Ticket) (description : String)
deriving DecidableEq, Repr

namespace Job

def isPending : Job → Bool
  | done _ => false
  | pending .. => true

def labelOf (description : String) : String :=
  if description.isEmpty then "deletion" else description

def isSuccess (status : String) : Bool := Text.lower status.toList == "succeeded".toList

/-- The text of a status, which has to be told and to be written. -/
def statusText (ticket : Ticket) : Program String := do
  Program.ofExcept (← Program.require (.status ticket) rfl)

/-- What a finished wait means: the operation must be over and have succeeded. The status is asked
for again when it has to be reported. -/
def settle (timeout : Value) (ticket : Ticket) (label : String) : Program Bool := do
  let finished ← Program.require (.isDone ticket) rfl
  if !finished.isTruthy then
    let seconds ← Program.misuse (timeout.fixed 0)
    .log .warning .deletion (label ++ " did not finish within " ++ seconds ++ "s")
    pure false
  else
    if isSuccess (← statusText ticket) then pure true
    else
      .log .warning .deletion (label ++ " finished with status " ++ (← statusText ticket))
      pure false

/-- Waits for the operation behind a job. A resource that is gone already counts as deleted, and
another error of the provider as a failure; every other fault leaves. -/
def confirmTicket (timeout : Value) (ticket : Ticket) (label : String) : Program Bool := do
  match ← Program.ask (.wait ticket timeout) with
  | .ok () => settle timeout ticket label
  | .error f =>
    if f.isNotFound then
      .log .debug .deletion (label ++ ": resource already gone")
      pure true
    else if f.isProvider then
      .log .warning .deletion (label ++ " failed: " ++ f.message)
      pure false
    else .fail f

def confirm (timeout : Value) : Job → Program Bool
  | done _ => pure true
  | pending (some ticket) description => confirmTicket timeout ticket (labelOf description)
  | pending none _ => .fail (.misuse (.missing "NoneType" "wait"))

/-- Where no job was needed the resource is gone. -/
def confirm? (timeout : Value) : Option Job → Program Bool
  | none => pure true
  | some job => job.confirm timeout

end Job

end NodeReclaim
