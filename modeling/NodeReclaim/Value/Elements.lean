import NodeReclaim.Value
import NodeReclaim.Value.Misuse

/-! Values as collections, and the fields that an object has to have. -/
namespace NodeReclaim.Value

/-- What a collection holds: a text its characters, a table its keys. -/
def items? : Value → Option (List Value)
  | list items => some items
  | text s => some (s.toList.map fun c => text (String.singleton c))
  | table entries => some (entries.map fun e => text e.1)
  | _ => none

/-- Elements of a collection. A value that is not present has none. -/
def elements (v : Value) : Except Misuse (List Value) :=
  match v.items? with
  | some items => .ok items
  | none => if v.isTruthy then .error (.notIterable v.kind) else .ok []

def required (v : Value) (name : String) : Except Misuse Value :=
  match v.field? name with
  | some w => .ok w
  | none => .error (.missing v.kind name)

end NodeReclaim.Value
