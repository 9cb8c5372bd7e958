import NodeReclaim.Text.Blank
import NodeReclaim.Text.Search

/-! Compound identifiers of virtual machines, written `group/name`. Neither part is blank and
neither holds a slash. -/
namespace NodeReclaim

inductive IdentifierError where
  | empty
  | shape (encoded : String)
  | emptyGroup
  | emptyName
  | slashes (group name : String)
deriving DecidableEq, Repr

def IdentifierError.message : IdentifierError → String
  | empty => "Identifier cannot be empty"
  | shape encoded => "Invalid identifier '" ++ encoded ++ "': expected <resource-group>/<name>"
  | emptyGroup => "Resource group cannot be empty"
  | emptyName => "Resource name cannot be empty"
  | slashes group name =>
    "Invalid identifier parts '" ++ group ++ "', '" ++ name ++ "': slashes not allowed"

structure NodeId where
  group : String
  name : String
deriving DecidableEq, Repr

namespace NodeId
open Text

def isBlankText (s : String) : Bool := (trim s.toList).isEmpty

def create (group name : String) : Except IdentifierError NodeId :=
  if isBlankText group then .error .emptyGroup
  else if isBlankText name then .error .emptyName
  else if group.toList.contains '/' || name.toList.contains '/' then .error (.slashes group name)
  else .ok ⟨group, name⟩

/-- Reads `group/name`; blanks around the whole and around each part are dropped. -/
def parse (encoded : String) : Except IdentifierError NodeId :=
  let trimmed := trim encoded.toList
  if trimmed.isEmpty then .error .empty
  else match splitAt '/' trimmed with
    | [group, name] => create (String.ofList (trim group)) (String.ofList (trim name))
    | _ => .error (.shape (String.ofList trimmed))

def encoded (id : NodeId) : String := id.group ++ "/" ++ id.name

end NodeId

end NodeReclaim
