import NodeReclaim.Fault
import NodeReclaim.Value.Order

/-! Timers, which take a pause or refuse it. The timer of a system counts nanoseconds in a word of 64 bits, and
has some of them behind it already. What is no amount never comes to a timer. -/
namespace NodeReclaim

abbrev Timer := Value → Except PauseError Unit

namespace Timer

def nanoseconds : Number → Number
  | .int n => .int (n * 1000000000)
  | .float x => .float (x * 1000000000)

def isUpward (a : Number) : Bool := (a.compare? (.int 0)).any fun o => o != .lt

def refusal (a : Number) : PauseError :=
  if (a.compare? (.int 0)).isNone then .unordered
  else if a.lt (.int 0) && (Number.int (-9223372036854775808)).le (nanoseconds a) then .negative
  else .uncountable

def within (fits : Number → Bool) (seconds : Value) : Except PauseError Unit :=
  match seconds.number? with
  | some a => if isUpward a && fits a then .ok () else .error (refusal a)
  | none => .ok ()

/-- Whether an amount is over within so many nanoseconds. -/
def fits (span : Nat) (a : Number) : Bool := (nanoseconds a).le (.int span)

/-- The timer of a system, which can count so many nanoseconds more. -/
def system (span : Nat) : Timer := within (fits span)

/-- A timer that skips its pauses, so that none is too long for it. -/
def skipping : Timer := within fun _ => true

end Timer

end NodeReclaim
