import NodeReclaim.Calendar
import NodeReclaim.Toml.Reader

/-! Dates and times. A date may go on with a time, and that with an offset from universal time;
a time may stand alone. Fractions of a second beyond the sixth digit are dropped. -/
namespace NodeReclaim.Toml
open Reader

def field? (width low high : Nat) (s : List Char) : Option (Nat × List Char) :=
  let digits := s.take width
  if digits.length = width && digits.all Text.isDigit then
    let n := Text.ofDigits 10 (digits.map fun c => c.toNat - 0x30)
    if low ≤ n && n ≤ high then some (n, s.drop width) else none
  else none

def mark? (c : Char) : List Char → Option (List Char)
  | d :: rest => if d = c then some rest else none
  | [] => none

def micro (s : List Char) : Nat × List Char :=
  match s with
  | '.' :: rest =>
    let digits := rest.takeWhile Text.isDigit
    if digits.isEmpty then (0, s)
    else
      let six := (digits ++ List.replicate 6 '0').take 6
      (Text.ofDigits 10 (six.map fun c => c.toNat - 0x30), rest.drop digits.length)
  | _ => (0, s)

def clock? (s : List Char) : Option (Clock × List Char) := do
  let (hour, s) ← field? 2 0 23 s
  let (minute, s) ← field? 2 0 59 (← mark? ':' s)
  let (second, s) ← field? 2 0 59 (← mark? ':' s)
  let (part, s) := micro s
  some (⟨hour, minute, second, part⟩, s)

def day? (s : List Char) : Option (Day × List Char) := do
  let (year, s) ← field? 4 0 9999 s
  let (month, s) ← field? 2 1 12 (← mark? '-' s)
  let (day, s) ← field? 2 1 31 (← mark? '-' s)
  some (⟨year, month, day⟩, s)

def shift? (s : List Char) : Option (Nat × List Char) := do
  let (hours, s) ← field? 2 0 23 s
  let (minutes, s) ← field? 2 0 59 (← mark? ':' s)
  some (60 * hours + minutes, s)

def offset (s : List Char) : Option Int × List Char :=
  match s with
  | 'Z' :: rest | 'z' :: rest => (some 0, rest)
  | '+' :: rest => match shift? rest with
    | some (n, rest) => (some n, rest)
    | none => (none, s)
  | '-' :: rest => match shift? rest with
    | some (n, rest) => (some (-n), rest)
    | none => (none, s)
  | _ => (none, s)

def laterClock? : List Char → Option (Clock × List Char)
  | c :: rest => if c = 'T' || c = 't' || c = ' ' then clock? rest else none
  | [] => none

def dated? (s : List Char) : Option (Moment × List Char) := do
  let (day, s) ← day? s
  match laterClock? s with
  | some (clock, s) =>
    let (offset, s) := offset s
    some (.stamp day clock offset, s)
  | none => some (.day day, s)

/-- Days have to exist in the calendar. -/
def moment? : Reader (Option Moment) := do
  match ← tryTake dated? with
  | some m =>
    let day := match m with
      | .day d | .stamp d _ _ => some d
      | .clock _ => none
    if day.all Day.isValid then return some m else malformed
  | none => return (← tryTake clock?).map .clock

end NodeReclaim.Toml
