import NodeReclaim.Text.Blank
import NodeReclaim.Text.Lower

/-! Names of resources that all machines of a group share: a lead, a delimiter and the group, in
lowercase. -/
namespace NodeReclaim

inductive NamingError where
  | group (name : String)
deriving DecidableEq, Repr

def NamingError.message : NamingError → String
  | group name => "Invalid group name: '" ++ name ++ "'"

structure Naming where
  lead : String
  delimiter : String

namespace Naming
open Text

/-- Letters and digits of the Latin alphabet, underscore, full stop and hyphen. -/
def isGroupChar (c : Char) : Bool :=
  let n := c.toNat
  (0x61 ≤ n && n ≤ 0x7A) || (0x41 ≤ n && n ≤ 0x5A) || (0x30 ≤ n && n ≤ 0x39) || c = '_' ||
    c = '.' || c = '-'

def groupOf (group : String) : Except NamingError (List Char) :=
  let g := trim group.toList
  if g.isEmpty || !g.all isGroupChar then .error (.group (String.ofList g)) else .ok g

def join (n : Naming) (g : List Char) : String :=
  String.ofList (lower (n.lead.toList ++ n.delimiter.toList ++ g))

def shared (n : Naming) (group : String) : Except NamingError String := (groupOf group).map n.join

end Naming

end NodeReclaim
