import NodeReclaim.Program
import NodeReclaim.Text.Search

/-! Paths of the file system: their text, the home mark in front of them, and where symbolic links
lead. -/
namespace NodeReclaim.Path
open Text Program

def text (p : Path) : String := "/" ++ "/".intercalate p

/-- A path as it is written. Two slashes in front of it are kept apart from one, although they lead to
the same place. -/
structure Spelling where
  path : Path
  doubled : Bool := false

def Spelling.text (s : Spelling) : String := (if s.doubled then "/" else "") ++ Path.text s.path

def parent (p : Path) : Path := p.dropLast

def names (s : String) : List String := (splitAt '/' s.toList).map String.ofList

def isAbsolute (s : String) : Bool := s.startsWith "/"

/-- A name that leads nowhere else. -/
def isStay (name : String) : Bool := name.isEmpty || name == "."

def goOn (base : Path) : List String → Path
  | [] => base
  | name :: rest =>
    if isStay name then goOn base rest
    else if name == ".." then goOn (parent base) rest
    else goOn (base ++ [name]) rest

def openingSlashes : List String → Nat
  | "" :: name :: rest => openingSlashes (name :: rest) + 1
  | _ => 0

/-- A way added to a path as it stands. A way that begins with a slash starts from the root; three
slashes or more count as one. -/
def joined (base : Spelling) (way : List String) : Spelling :=
  match openingSlashes way with
  | 0 => { base with path := goOn base.path way }
  | slashes => ⟨goOn [] way, slashes == 2⟩

/-- Links met so far, the latest first, each with the path it stands for once that is known. -/
abbrev Links := List (Path × Option Path)

/-- A path whose links are replaced, unless a link was met again under itself: then the rest of the
way is added as it stands. -/
structure Trail where
  spelling : Spelling
  complete : Bool
  links : Links

/-- How many links may stand in the targets of each other. -/
def maxNestedLinks : Nat := 1000

/-- Replaces every link on a way by its target, whether or not the way exists. -/
def unlinked (nested : Nat) (base : Path) (links : Links) (way : List String) : Program Trail :=
  match way with
  | [] => pure ⟨⟨base, false⟩, true, links⟩
  | name :: rest =>
    if isStay name then unlinked nested base links rest
    else if name == ".." then unlinked nested (parent base) links rest
    else do
      let next := base ++ [name]
      match ← (ask (.look next) : Program FileEntry) with
      | .link target =>
        match links.lookup next, nested with
        | some (some path), nested => unlinked nested path links rest
        | some none, _ | none, 0 => pure ⟨joined ⟨next, false⟩ rest, false, links⟩
        | none, nested + 1 =>
          let start := if isAbsolute target then [] else base
          let inner ← unlinked nested start ((next, none) :: links) (names target)
          if inner.complete then
            let path := inner.spelling.path
            unlinked (nested + 1) path ((next, some path) :: inner.links) rest
          else pure { inner with spelling := joined inner.spelling rest }
      | _ => unlinked nested next links rest
termination_by (nested, way.length)

inductive Place where
  | missing
  | folder
  | file (bytes : ByteArray)
  | tooLong
  | loop

def maxNameBytes : Nat := 255

def maxPathBytes : Nat := 4095

def maxLinks : Nat := 40

/-- Walks from a place by names that all have to exist. Only folders lead on. -/
def walk (links : Nat) (base : Path) (place : Place) (way : List String) : Program Place :=
  match way with
  | [] => pure place
  | name :: rest =>
    match place with
    | .folder =>
      if isStay name then walk links base .folder rest
      else if name == ".." then walk links (parent base) .folder rest
      else if maxNameBytes < name.utf8ByteSize then pure .tooLong
      else do
        let next := base ++ [name]
        match ← (ask (.look next) : Program FileEntry) with
        | .missing => pure .missing
        | .folder => walk links next .folder rest
        | .file bytes => walk links next (.file bytes) rest
        | .link target =>
          match links with
          | 0 => pure .loop
          | links + 1 =>
            walk links (if isAbsolute target then [] else base) .folder (names target ++ rest)
    | _ => pure .missing
termination_by (links, way.length)

def Spelling.follow (s : Spelling) : Program Place :=
  if maxPathBytes < s.text.utf8ByteSize then pure .tooLong else walk maxLinks [] .folder s.path

/-- Puts the home folder for a home mark. Homes of other users are not known. -/
def expandHome (home : Path) (first : String) : Program Path :=
  if first == "~" then pure home
  else if first.contains '\x00' then .fail .nulInPath
  else .fail .unknownHome

def start (host : Host) (s : String) : Program (Path × List String) :=
  match (names s).filter fun name => !isStay name with
  | [] => pure (if isAbsolute s then [] else host.current, [])
  | first :: rest =>
    if isAbsolute s then pure ([], first :: rest)
    else if first.startsWith "~" then return (← expandHome host.home first, rest)
    else pure (host.current, first :: rest)

def resolve (s : String) : Program Spelling := do
  let (base, way) ← start (← (ask .host : Program Host)) s
  if s.contains '\x00' then .fail .nulInPath
  else return (← unlinked maxNestedLinks [] [] (base ++ way)).spelling

end NodeReclaim.Path
