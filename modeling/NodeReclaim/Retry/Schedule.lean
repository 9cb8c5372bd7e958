import NodeReclaim.Program
import NodeReclaim.Value.Order

/-! Pauses between attempts. The delay doubles after every pause; jitter moves a pause by up to a
quarter of the delay either way, and the cap comes last. -/
namespace NodeReclaim.Retry

structure Policy where
  attempts : Value := .int 3
  initialDelay : Value := .float 1
  maxDelay : Value := .float 30
  jitter : Bool := true

def granted (attempts : Value) : Except Misuse Nat :=
  match attempts with
  | .bool b => .ok (if b then 1 else 0)
  | .int n => .ok n.toNat
  | .text _ | .list _ => .error (.concatenated attempts.kind)
  | .float _ => .error (.notInteger attempts.kind)
  | _ => .error (.operands "+" attempts.kind "int")

def quarter (delay : Value) : Except Misuse Float :=
  match delay.number? with
  | some n => n.toFloat.map (· * 0.25)
  | none =>
    match delay with
    | .text _ | .list _ => .error (.repeated "float")
    | _ => .error (.operands "*" delay.kind "float")

/-- A delay moved by a draw between zero and one, which spans the quarters around it. -/
def jittered (delay : Value) (spread draw : Float) : Except Misuse Value :=
  match delay.number? with
  | some n => n.toFloat.map fun x => .float (x + (-spread + (spread - -spread) * draw))
  | none => .error (.operands "+" delay.kind "float")

/-- Twice a delay. A delay that is no amount does not get this far. -/
def doubled (delay : Value) : Value :=
  match delay.number? with
  | some (.int n) => .int (n * 2)
  | some (.float x) => .float (x * 2)
  | none => delay

def pauseFor (p : Policy) (delay : Value) : Program Value := do
  let moved ← if p.jitter then do
      let spread ← Program.misuse (quarter delay)
      let draw ← (Program.ask .draw : Program Float)
      Program.misuse (jittered delay spread draw)
    else pure delay
  Program.misuse (moved.capped p.maxDelay)

def pause (seconds : Value) : Program Unit := do
  Program.ofExcept ((← Program.ask (.pause seconds)).mapError .ofPause)

end NodeReclaim.Retry
