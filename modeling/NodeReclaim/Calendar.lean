/-! Calendar dates, times of day and time stamps, with their standard text. Stamps may carry an
offset from universal time in whole minutes. -/
namespace NodeReclaim

structure Day where
  year : Nat
  month : Nat
  day : Nat
deriving DecidableEq, Repr

structure Clock where
  hour : Nat
  minute : Nat
  second : Nat
  micro : Nat
deriving DecidableEq, Repr

inductive Moment where
  | day (d : Day)
  | clock (t : Clock)
  | stamp (d : Day) (t : Clock) (offset : Option Int)
deriving DecidableEq, Repr

namespace Day

def isLeap (year : Nat) : Bool := year % 4 == 0 && (year % 100 != 0 || year % 400 == 0)

def monthLength (year month : Nat) : Nat :=
  if month = 2 then if isLeap year then 29 else 28
  else if month = 4 || month = 6 || month = 9 || month = 11 then 30 else 31

def isValid (d : Day) : Bool :=
  1 ≤ d.year && d.year ≤ 9999 && 1 ≤ d.month && d.month ≤ 12 && 1 ≤ d.day &&
    d.day ≤ monthLength d.year d.month

end Day

namespace Moment

def padded (width n : Nat) : String :=
  let digits := toString n
  String.ofList (List.replicate (width - digits.length) '0') ++ digits

def dayText (d : Day) : String :=
  padded 4 d.year ++ "-" ++ padded 2 d.month ++ "-" ++ padded 2 d.day

def clockText (t : Clock) : String :=
  padded 2 t.hour ++ ":" ++ padded 2 t.minute ++ ":" ++ padded 2 t.second ++
    if t.micro = 0 then "" else "." ++ padded 6 t.micro

def offsetText : Option Int → String
  | none => ""
  | some minutes =>
    (if minutes < 0 then "-" else "+") ++ padded 2 (minutes.natAbs / 60) ++ ":" ++
      padded 2 (minutes.natAbs % 60)

def text (separator : String) : Moment → String
  | .day d => dayText d
  | .clock t => clockText t
  | .stamp d t offset => dayText d ++ separator ++ clockText t ++ offsetText offset

def kind : Moment → String
  | .day _ => "datetime.date"
  | .clock _ => "datetime.time"
  | .stamp .. => "datetime.datetime"

def dayParts (d : Day) : List String := [toString d.year, toString d.month, toString d.day]

/-- Seconds are left out when they and the smaller parts are zero. -/
def clockParts (t : Clock) : List String :=
  [toString t.hour, toString t.minute] ++
    if t.micro != 0 then [toString t.second, toString t.micro]
    else if t.second != 0 then [toString t.second] else []

def zone (minutes : Int) : String :=
  if minutes = 0 then "datetime.timezone.utc"
  else
    let seconds := (minutes * 60) % 86400
    let parts := (if minutes < 0 then ["days=-1"] else []) ++
      if seconds = 0 then [] else ["seconds=" ++ toString seconds]
    "datetime.timezone(datetime.timedelta(" ++ ", ".intercalate parts ++ "))"

/-- The moment written as a constructor call, as it stands inside a list or a table. -/
def written : Moment → String
  | .day d => "datetime.date(" ++ ", ".intercalate (dayParts d) ++ ")"
  | .clock t => "datetime.time(" ++ ", ".intercalate (clockParts t) ++ ")"
  | .stamp d t offset =>
    "datetime.datetime(" ++ ", ".intercalate (dayParts d ++ clockParts t ++
      (offset.map fun m => "tzinfo=" ++ zone m).toList) ++ ")"

end Moment

end NodeReclaim
