import NodeReclaim.Decimal.Reading
import NodeReclaim.Value
import NodeReclaim.Value.Misuse

/-! Values written into messages. A value is refused when it is nested too deeply or when an integer
in it has too many digits, whichever is met first. -/
namespace NodeReclaim.Value

def isShort (n : Int) : Bool := (Nat.toDigits 10 n.natAbs).length ≤ Decimal.maxIntegerDigits

mutual

/-- Why a value cannot be written inside of at most so many more collections. -/
def refusal? (levels : Nat) : Value → Option Misuse
  | int n => if isShort n then none else some .longInteger
  | list items => itemsRefusal? levels items
  | table entries | record entries => entriesRefusal? levels entries
  | _ => none

def itemsRefusal? (levels : Nat) : List Value → Option Misuse
  | [] => none
  | v :: rest =>
    match levels with
    | 0 => some .tooDeep
    | inner + 1 => (v.refusal? inner).or (itemsRefusal? levels rest)

def entriesRefusal? (levels : Nat) : List (String × Value) → Option Misuse
  | [] => none
  | (_, v) :: rest =>
    match levels with
    | 0 => some .tooDeep
    | inner + 1 => (v.refusal? inner).or (entriesRefusal? levels rest)

end

def shown (v : Value) (levels : Nat) : Except Misuse String :=
  match v.refusal? levels with
  | none => .ok v.display
  | some m => .error m

/-- How many collections can mostly be written in each other. The number depends on the interpreter and on how
deep the caller stands; it is only what is taken where no other is given. -/
def usualLevels : Nat := 980

end NodeReclaim.Value
