import NodeReclaim.Toml.Reader
import NodeReclaim.Value

/-! The tables of a document while it is read. Which of them may still be opened or extended depends
on how they came into being. -/
namespace NodeReclaim.Toml

/-- How a table came into being: as a step to another one, by a dotted key in the block under the
header of that number, or by a header of its own. -/
inductive Origin where
  | implied
  | dotted (block : Nat)
  | declared
deriving DecidableEq, Repr

/-- Whether a table can no longer be opened: it has a header, or was made by dotted keys of an
earlier block. -/
def Origin.isClosed (block : Nat) : Origin → Bool
  | implied => false
  | dotted b => b != block
  | declared => true

/-- A value is complete. An array of tables has its last element open. -/
inductive Branch where
  | leaf (v : Value)
  | table (origin : Origin) (entries : List (String × Branch))
  | tables (earlier : List (List (String × Branch))) (last : List (String × Branch))

abbrev Entries := List (String × Branch)

namespace Branch

mutual

def value : Branch → Value
  | leaf v => v
  | table _ entries => .table (entryValues entries)
  | tables earlier last => .list (tableValues earlier ++ [.table (entryValues last)])

def entryValues : Entries → Table
  | [] => []
  | (key, b) :: rest => (key, b.value) :: entryValues rest

def tableValues : List Entries → List Value
  | [] => []
  | t :: rest => .table (entryValues t) :: tableValues rest

end

end Branch

namespace Entries
open Branch

def get? (t : Entries) (key : String) : Option Branch := (t.find? fun e => e.1 == key).map (·.2)

/-- Makes or changes the branch at a key, which keeps its place. -/
def alter (t : Entries) (key : String) (f : Option Branch → Except Flaw Branch) :
    Except Flaw Entries :=
  match t with
  | [] => return [(key, ← f none)]
  | e :: rest =>
    if e.1 == key then return (key, ← f (some e.2)) :: rest else return e :: (← alter rest key f)

/-- Changes the table a header's path leads to. Missing tables are implied. -/
def within (change : Entries → Except Flaw Entries) (path : List String) (t : Entries) :
    Except Flaw Entries :=
  match path with
  | [] => change t
  | key :: path => t.alter key fun
    | none => return table .implied (← within change path [])
    | some (table origin sub) => return table origin (← within change path sub)
    | some (tables earlier last) => return tables earlier (← within change path last)
    | some (leaf _) => throw .malformed

/-- Changes the table a dotted key's path leads to, which no earlier block may have closed. -/
def withinDotted (block : Nat) (change : Entries → Except Flaw Entries) (path : List String)
    (t : Entries) : Except Flaw Entries :=
  match path with
  | [] => change t
  | key :: path => t.alter key fun
    | none => return table (.dotted block) (← withinDotted block change path [])
    | some (table origin sub) =>
      if origin.isClosed block then throw .malformed
      else return table (.dotted block) (← withinDotted block change path sub)
    | some (tables ..) | some (leaf _) => throw .malformed

def addLeaf (key : String) (v : Value) (t : Entries) : Except Flaw Entries :=
  t.alter key fun
    | none => return leaf v
    | some _ => throw .malformed

def declare (block : Nat) (key : String) (t : Entries) : Except Flaw Entries :=
  t.alter key fun
    | none => return table .declared []
    | some (table origin sub) =>
      if origin.isClosed block then throw .malformed else return table .declared sub
    | some (tables ..) | some (leaf _) => throw .malformed

def append (key : String) (t : Entries) : Except Flaw Entries :=
  t.alter key fun
    | none => return tables [] []
    | some (tables earlier last) => return tables (earlier ++ [last]) []
    | some (table ..) | some (leaf _) => throw .malformed

end Entries

def splitLast (first : String) : List String → List String × String
  | [] => ([], first)
  | second :: rest =>
    let (path, last) := splitLast second rest
    (first :: path, last)

end NodeReclaim.Toml
