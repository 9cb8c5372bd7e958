import NodeReclaim.Value.Elements
import NodeReclaim.Value.Order

/-! Tags of a resource. They come as a table or as a list of pairs, and their keys need not be
texts. -/
namespace NodeReclaim

abbrev Tags := List (Value × Value)

namespace Tags

def get? (t : Tags) (key : Value) : Option Value := (t.find? fun e => e.1.same key).map (·.2)

def put (t : Tags) (key v : Value) : Tags :=
  if t.any fun e => e.1.same key then t.map fun e => if e.1.same key then (e.1, v) else e
  else t ++ [(key, v)]

def ofTable (t : Table) : Tags := t.map fun e => (.text e.1, e.2)

/-- Key and value of a pair, which is any collection of two. -/
def pair (position : Nat) (v : Value) : Except Misuse (Value × Value) :=
  match v.items? with
  | none => .error (.entryKind position)
  | some [key, value] => key.asKey.map fun key => (key, value)
  | some items => .error (.entryLength position items.length)

def putPairs (t : Tags) (position : Nat) : List Value → Except Misuse Tags
  | [] => .ok t
  | v :: rest => do
    let (key, value) ← pair position v
    (t.put key value).putPairs (position + 1) rest

/-- Tags as an object carries them. A value that is not present means none. -/
def ofValue? (v : Value) : Except Misuse (Option Tags) :=
  if !v.isTruthy then .ok none
  else match v with
    | .table entries => .ok (some (ofTable entries))
    | v => do return some (← putPairs [] 0 (← v.elements))

end Tags

end NodeReclaim
