import NodeReclaim.Text.Digit

/-! Reading a document from left to right. A reader takes what it needs off the front of the text
that is left, or finds a flaw that ends the reading. -/
namespace NodeReclaim.Toml

inductive Flaw where
  | malformed
  /-- A decimal integer with more digits than may be converted. -/
  | oversized (digits : Nat)
  /-- Arrays and inline tables inside each other beyond what is allowed. -/
  | nested
  /-- A key with more parts than are allowed. -/
  | longKey
deriving DecidableEq, Repr

abbrev Reader := StateT (List Char) (Except Flaw)

namespace Reader

def malformed : Reader α := throw .malformed

def peek : Reader (Option Char) := return (← get).head?

def skipWhile (p : Char → Bool) : Reader Unit := modify (·.dropWhile p)

def takeWhile (p : Char → Bool) : Reader (List Char) := do
  let taken := (← get).takeWhile p
  skipWhile p
  return taken

def takes (word : String) : Reader Bool := do
  let rest ← get
  if word.toList.isPrefixOf rest then
    set (rest.drop word.length)
    return true
  else return false

def expect (word : String) : Reader Unit := do
  unless ← takes word do malformed

/-- Reads with a function that gives a result and what is left, when it applies. -/
def tryTake (f : List Char → Option (α × List Char)) : Reader (Option α) := do
  match f (← get) with
  | some (a, rest) => set rest; return some a
  | none => return none

end Reader

def isSpace (c : Char) : Bool := c = ' ' || c = '\t'

/-- Characters that stand neither in a comment nor in a text. -/
def isControl (c : Char) : Bool := (c.toNat < 0x20 && c != '\t') || c.toNat = 0x7F

def skipSpaces : Reader Unit := Reader.skipWhile isSpace

def skipComment : Reader Unit := do
  if ← Reader.takes "#" then
    let comment ← Reader.takeWhile (· != '\n')
    if comment.any isControl then Reader.malformed

def afterLayout (inComment : Bool) : List Char → Except Flaw (List Char)
  | [] => .ok []
  | c :: rest =>
    if c = '\n' then afterLayout false rest
    else if inComment then if isControl c then .error .malformed else afterLayout true rest
    else if isSpace c then afterLayout false rest
    else if c = '#' then afterLayout true rest
    else .ok (c :: rest)

def skipLayout : Reader Unit := do set (← afterLayout false (← get))

/-- A carriage return before a line feed is dropped. -/
def unifyLineEnds : List Char → List Char
  | [] => []
  | '\r' :: '\n' :: rest => '\n' :: unifyLineEnds rest
  | c :: rest => c :: unifyLineEnds rest

end NodeReclaim.Toml
