import NodeReclaim.Calendar
import NodeReclaim.Decimal.Shortest
import NodeReclaim.Text.Quoted

/-! Values as they come from a settings file or a provider: nothing fixes their kind in advance. A
table is a dictionary; a record is an object whose fields may be missing. -/
namespace NodeReclaim

inductive Value where
  | null
  | bool (b : Bool)
  | int (n : Int)
  | float (x : Float)
  | text (s : String)
  | moment (m : Moment)
  | list (items : List Value)
  | table (entries : List (String × Value))
  | record (fields : List (String × Value))
deriving Inhabited

/-- Entries of a dictionary in the order of their first insertion. -/
abbrev Table := List (String × Value)

namespace Table

def get? (t : Table) (key : String) : Option Value := (t.find? fun e => e.1 == key).map (·.2)

def put (t : Table) (key : String) (v : Value) : Table :=
  if t.any fun e => e.1 == key then t.map fun e => if e.1 == key then (key, v) else e
  else t ++ [(key, v)]

def overlay (t later : Table) : Table := later.foldl (fun t e => t.put e.1 e.2) t

end Table

namespace Value

def kind : Value → String
  | null => "NoneType"
  | bool _ => "bool"
  | int _ => "int"
  | float _ => "float"
  | text _ => "str"
  | moment m => m.kind
  | list _ => "list"
  | table _ => "dict"
  | record _ => "types.SimpleNamespace"

/-- Whether a value counts as present: zero, the empty text, list and table do not. -/
def isTruthy : Value → Bool
  | null => false
  | bool b => b
  | int n => n != 0
  | float x => x != 0
  | text s => !s.isEmpty
  | list items => !items.isEmpty
  | table entries => !entries.isEmpty
  | moment _ | record _ => true

/-- A field of a record; no other kind of value has fields. -/
def field? (v : Value) (name : String) : Option Value :=
  match v with
  | record fields => Table.get? fields name
  | _ => none

def field (v : Value) (name : String) : Value := (v.field? name).getD null

def ofOption : Option String → Value
  | none => null
  | some s => text s

/-- Doubles are written with the fewest digits that read back; powers of ten from the minus fourth
to the fifteenth need no exponent. -/
def floatLayout : Decimal.Layout := ⟨-4, 15, true, 2⟩

def floatText (x : Float) : String := String.ofList (floatLayout.render x)

def quotedText (s : String) : String := String.ofList (Text.quoted s.toList)

mutual

def written : Value → String
  | null => "None"
  | bool b => if b then "True" else "False"
  | int n => toString n
  | float x => floatText x
  | text s => quotedText s
  | moment m => m.written
  | list items => "[" ++ ", ".intercalate (writtenItems items) ++ "]"
  | table entries => "\x7b" ++ ", ".intercalate (writtenEntries entries) ++ "\x7d"
  | record fields => "namespace(" ++ ", ".intercalate (writtenFields fields) ++ ")"

def writtenItems : List Value → List String
  | [] => []
  | v :: rest => v.written :: writtenItems rest

def writtenEntries : List (String × Value) → List String
  | [] => []
  | (key, v) :: rest => (quotedText key ++ ": " ++ v.written) :: writtenEntries rest

def writtenFields : List (String × Value) → List String
  | [] => []
  | (name, v) :: rest => (name ++ "=" ++ v.written) :: writtenFields rest

end

/-- A value as it stands in a message: texts without quotes. -/
def display : Value → String
  | text s => s
  | moment m => m.text " "
  | v => v.written

end Value

end NodeReclaim
