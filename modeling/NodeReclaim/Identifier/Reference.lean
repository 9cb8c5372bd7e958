import NodeReclaim.Text.Lower
import NodeReclaim.Text.Search
import NodeReclaim.Value
import NodeReclaim.Value.Misuse

/-! References to provider resources, read from resource paths such as
`/subscriptions/s/resourceGroups/g/providers/namespace/type/name`. Children of the named resource
are ignored, and parts that are not in the path stay unknown. -/
namespace NodeReclaim

structure Reference where
  id : String
  group : Option String
  name : Option String
deriving DecidableEq, Repr

namespace Reference
open Text

def segments (id : String) : List (List Char) :=
  (splitAt '/' id.toList).filter fun s => !s.isEmpty

/-- Index of a keyword among segments, whatever its case. -/
def keyword? (word : String) (path : List (List Char)) : Option Nat :=
  (path.map lower).idxOf? word.toList

def groupOf (path : List (List Char)) : Option (List Char) :=
  (keyword? "resourcegroups" path).bind fun i => path[i + 1]?

/-- The segment after namespace and type; a path that ends with its group names the group. -/
def nameOf (path : List (List Char)) : Option (List Char) :=
  match keyword? "providers" path with
  | some i => path[i + 3]?
  | none => (keyword? "resourcegroups" path).bind fun i =>
    if path.length = i + 2 then groupOf path else none

def create (id : String) : Reference :=
  let path := segments id
  ⟨id, (groupOf path).map String.ofList, (nameOf path).map String.ofList⟩

/-- The reference a provider's identifier field holds, which has to be a text. -/
def ofValue : Value → Except Misuse Reference
  | .text id => .ok (create id)
  | v => .error (.missing v.kind "split")

end Reference

end NodeReclaim
