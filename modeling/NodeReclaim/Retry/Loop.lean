import NodeReclaim.Retry.Masking
import NodeReclaim.Retry.Schedule
import NodeReclaim.Retry.Transient
import NodeReclaim.Value.Shown

/-! Retrying an operation. Every call starts with the initial delay; the last fault and every fault
that is not transient leave unchanged. -/
namespace NodeReclaim.Retry

/-- The text of a fault in the log; faults that have none are left out. -/
def logged (f : Fault) : String := masked f.message

/-- The number of an attempt out of all that are granted. That number nests nothing. -/
def progress (p : Policy) (number : Nat) : Program String := do
  return toString number ++ "/" ++ (← Program.misuse (p.attempts.shown 0))

def attemptsFrom (p : Policy) (name : String) (operation : Program α) :
    (left number : Nat) → (delay : Value) → Program α
  | 0, _, _ => .fail (.noAttempts name)
  | left + 1, number, delay => do
    match ← operation.attempt with
    | .ok a =>
      if 1 < number then
        let progress ← progress p number
        .log .info .retry (name ++ " succeeded on attempt " ++ progress)
      pure a
    | .error f =>
      if !f.isTransient then .fail f
      else if left = 0 then
        let total ← Program.misuse (p.attempts.shown 0)
        .log .error .retry (name ++ " failed after " ++ total ++ " attempts: " ++ logged f)
        .fail f
      else
        let seconds ← pauseFor p delay
        let progress ← progress p number
        let shown ← Program.misuse (seconds.fixed 2)
        .log .warning .retry
          (name ++ " failed on attempt " ++ progress ++ ", retrying in " ++ shown ++ "s: " ++
            logged f)
        pause seconds
        attemptsFrom p name operation left (number + 1) (doubled delay)

def retrying (p : Policy) (name : String) (operation : Program α) : Program α := do
  let attempts ← Program.misuse (granted p.attempts)
  attemptsFrom p name operation attempts 1 p.initialDelay

end NodeReclaim.Retry
