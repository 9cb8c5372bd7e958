import NodeReclaim.Toml.Moment
import NodeReclaim.Toml.Number
import NodeReclaim.Toml.Text
import NodeReclaim.Toml.Tree

/-! Values, statements and whole documents. A reader spends at most two units of fuel on a character,
so twice the length of the text is always enough. -/
namespace NodeReclaim.Toml
open Reader

def simple : Reader Value := do
  if let some s ← text? then return .text s
  else if ← takes "true" then return .bool true
  else if ← takes "false" then return .bool false
  else if let some m ← moment? then return .moment m
  else if let some n ← number? then return n
  else malformed

def maxDepth : Nat := 400

mutual

def value (depth : Nat) : Nat → Reader Value
  | 0 => malformed
  | fuel + 1 => do
    if maxDepth < depth then throw .nested
    else if ← takes "[" then
      skipLayout
      return .list (← if ← takes "]" then pure [] else items (depth + 1) fuel)
    else if ← takes "\x7b" then
      skipSpaces
      let entries ← if ← takes "\x7d" then pure [] else members (depth + 1) fuel []
      return .table (Branch.entryValues entries)
    else simple

/-- The rest of an array, from an item on. A comma may follow the last one. -/
def items (depth : Nat) : Nat → Reader (List Value)
  | 0 => malformed
  | fuel + 1 => do
    let first ← value depth fuel
    skipLayout
    if ← takes "]" then return [first]
    expect ","
    skipLayout
    if ← takes "]" then return [first]
    return first :: (← items depth fuel)

def members (depth : Nat) : Nat → Entries → Reader Entries
  | 0, _ => malformed
  | fuel + 1, entries => do
    let (first, rest) ← key
    expect "="
    skipSpaces
    let v ← value depth fuel
    let (path, last) := splitLast first rest
    let entries ← entries.withinDotted 0 (Entries.addLeaf last v) path
    skipSpaces
    if ← takes "\x7d" then return entries
    expect ","
    skipSpaces
    members depth fuel entries

end

/-- A document so far: its tables, the path of the current header, and that header's number. -/
structure Draft where
  entries : Entries := []
  header : List String := []
  block : Nat := 0

namespace Draft

def keyValue (d : Draft) : Reader Draft := do
  let (first, rest) ← key
  expect "="
  skipSpaces
  let v ← value 0 (2 * (← get).length + 2)
  let (path, last) := splitLast first rest
  let add := Entries.withinDotted d.block (Entries.addLeaf last v) path
  return { d with entries := ← d.entries.within add d.header }

def tableHeader (d : Draft) : Reader Draft := do
  skipSpaces
  let (first, rest) ← key
  let (path, last) := splitLast first rest
  let block := d.block + 1
  let entries ← d.entries.within (Entries.declare block last) path
  expect "]"
  return ⟨entries, first :: rest, block⟩

def arrayHeader (d : Draft) : Reader Draft := do
  skipSpaces
  let (first, rest) ← key
  let (path, last) := splitLast first rest
  let entries ← d.entries.within (Entries.append last) path
  expect "]]"
  return ⟨entries, first :: rest, d.block + 1⟩

def statement (d : Draft) : Reader Draft := do
  if ← takes "[[" then d.arrayHeader
  else if ← takes "[" then d.tableHeader
  else
    match ← peek with
    | some c =>
      if isBareKeyChar c || c = '"' || c = '\'' then d.keyValue
      else if c = '#' || c = '\n' then return d
      else malformed
    | none => return d

def lines : Nat → Draft → Reader Draft
  | 0, d => return d
  | fuel + 1, d => do
    skipSpaces
    let d ← d.statement
    skipSpaces
    skipComment
    if ← takes "\n" then lines fuel d
    else if (← peek).isSome then malformed
    else return d

end Draft

def parse (document : String) : Except Flaw Table :=
  let text := unifyLineEnds document.toList
  (Draft.lines (text.length + 1) {} text).map fun (d, _) => Branch.entryValues d.entries

end NodeReclaim.Toml
