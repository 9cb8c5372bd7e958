import NodeReclaim.Value
import NodeReclaim.Value.Misuse

/-! Equality and order of values. Integers and doubles compare by their exact amounts, truth values
count as one and zero, and kinds without a common order refuse to be compared. -/
namespace NodeReclaim

inductive Number where
  | int (n : Int)
  | float (x : Float)

namespace Number

/-- Sign of `n - x`; none when the double is not a number. -/
def compareFloat (n : Int) (x : Float) : Option Ordering :=
  match Decimal.parts x with
  | .nan => none
  | .infinite negative => some (if negative then .gt else .lt)
  | .finite b =>
    let top : Int := b.ratio.1
    some (compare (n * b.ratio.2) (if b.negative then -top else top))

def compare? : Number → Number → Option Ordering
  | int a, int b => some (compare a b)
  | int a, float x => compareFloat a x
  | float x, int a => (compareFloat a x).map Ordering.swap
  | float x, float y =>
    if x < y then some .lt else if x == y then some .eq else if y < x then some .gt else none

def lt (a b : Number) : Bool := compare? a b == some .lt

def le (a b : Number) : Bool := (compare? a b).any fun o => o != .gt

def eq (a b : Number) : Bool := compare? a b == some .eq

/-- The nearest double; integers past the range of doubles have none. -/
def toFloat : Number → Except Misuse Float
  | float x => .ok x
  | int n => let x := Float.ofInt n; if x.isInf then .error .overflow else .ok x

end Number

namespace Value

def number? : Value → Option Number
  | bool b => some (.int (if b then 1 else 0))
  | int n => some (.int n)
  | float x => some (.float x)
  | _ => none

mutual

def same : Value → Value → Bool
  | null, null => true
  | text s, text t => s == t
  | moment m, moment n => m == n
  | list as, list bs => sameItems as bs
  | table as, table bs => as.length == bs.length && sameEntries as bs
  | record as, record bs => as.length == bs.length && sameEntries as bs
  | v, w =>
    match v.number?, w.number? with
    | some a, some b => a.eq b
    | _, _ => false

def sameItems : List Value → List Value → Bool
  | [], [] => true
  | v :: vs, w :: ws => v.same w && sameItems vs ws
  | _, _ => false

def sameEntries : List (String × Value) → List (String × Value) → Bool
  | [], _ => true
  | (key, v) :: rest, other =>
    (match Table.get? other key with
      | some w => v.same w
      | none => false) && sameEntries rest other

end

mutual

/-- Whether the first value is the lesser. Lists compare at their first difference. -/
def less : Value → Value → Except Misuse Bool
  | text s, text t => .ok (s < t)
  | list as, list bs => lessItems as bs
  | v, w =>
    match v.number?, w.number? with
    | some a, some b => .ok (a.lt b)
    | _, _ => .error (.unordered "<" v.kind w.kind)

def lessItems : List Value → List Value → Except Misuse Bool
  | _, [] => .ok false
  | [], _ :: _ => .ok true
  | v :: vs, w :: ws => if v.same w then lessItems vs ws else v.less w

end

def isAtMost (v : Value) (n : Int) : Except Misuse Bool :=
  match v.number? with
  | some a => .ok (a.le (.int n))
  | none => .error (.unordered "<=" v.kind "int")

def isBelow (v : Value) (n : Int) : Except Misuse Bool :=
  match v.number? with
  | some a => .ok (a.lt (.int n))
  | none => .error (.unordered "<" v.kind "int")

/-- The bound when it is the lesser, else the value itself, in either case unchanged. -/
def capped (v bound : Value) : Except Misuse Value :=
  (bound.less v).map fun lesser => if lesser then bound else v

/-- A value as a key of a table: lists and tables cannot be keys. -/
def asKey (v : Value) : Except Misuse Value :=
  match v with
  | list _ | table _ | record _ => .error (.unhashable v.kind)
  | _ => .ok v

def fixed (places : Nat) (v : Value) : Except Misuse String :=
  match v with
  | text _ => .error (.formatCode v.kind)
  | v =>
    match v.number? with
    | some a => a.toFloat.map fun x => String.ofList (Decimal.fixed places x)
    | none => .error (.unformattable v.kind)

end Value

end NodeReclaim
