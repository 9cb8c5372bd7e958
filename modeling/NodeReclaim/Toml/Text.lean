import NodeReclaim.Toml.Reader

/-! Keys and texts. A basic text has escapes and a literal one has none; either may run over several
lines between threefold quotes. -/
namespace NodeReclaim.Toml
open Reader

def isBareKeyChar (c : Char) : Bool := c.isAlphanum || c = '_' || c = '-'

def scalar (digits : List Char) : Except Flaw Char :=
  match digits.mapM Text.hexValue? with
  | none => .error .malformed
  | some ds =>
    let n := Text.ofDigits 16 ds
    if h : n.isValidChar then .ok (Char.ofNatAux n h) else .error .malformed

def scalarOf (width : Nat) (s : List Char) : Except Flaw Char :=
  let digits := s.take width
  if digits.length = width then scalar digits else .error .malformed

def escaped? : Char → Option Char
  | 'b' => some '\x08'
  | 't' => some '\t'
  | 'n' => some '\n'
  | 'f' => some '\x0c'
  | 'r' => some '\r'
  | '"' => some '"'
  | '\\' => some '\\'
  | _ => none

/-- What follows a backslash at the end of a line: all blanks and line ends up to the next
character. Before the line end there may be blanks only. -/
def afterLineJoint (rest : List Char) : Except Flaw (List Char) :=
  match rest.dropWhile isSpace with
  | '\n' :: next => .ok (next.dropWhile fun c => isSpace c || c = '\n')
  | _ => .error .malformed

inductive Piece where
  | close
  | chars (cs : List Char)

def piece (multiline : Bool) : List Char → Except Flaw (Piece × List Char)
  | [] => .error .malformed
  | '"' :: rest =>
    if !multiline then .ok (.close, rest)
    else match rest with
      | '"' :: '"' :: rest => .ok (.close, rest)
      | rest => .ok (.chars ['"'], rest)
  | '\\' :: 'u' :: rest => do
    let c ← scalarOf 4 rest
    .ok (.chars [c], rest.drop 4)
  | '\\' :: 'U' :: rest => do
    let c ← scalarOf 8 rest
    .ok (.chars [c], rest.drop 8)
  | '\\' :: c :: rest =>
    match escaped? c with
    | some e => .ok (.chars [e], rest)
    | none => if multiline then (afterLineJoint (c :: rest)).map fun r => (.chars [], r)
      else .error .malformed
  | c :: rest =>
    if isControl c && !(multiline && c = '\n') then .error .malformed else .ok (.chars [c], rest)

/-- A basic text up to its closing quotes. Every piece takes a character at least, so the length of
the text is fuel enough. -/
def basicBody (multiline : Bool) : (fuel : Nat) → List Char → Except Flaw (List Char × List Char)
  | 0, _ => .error .malformed
  | fuel + 1, s => do
    match ← piece multiline s with
    | (.close, rest) => .ok ([], rest)
    | (.chars cs, rest) =>
      let (text, rest) ← basicBody multiline fuel rest
      .ok (cs ++ text, rest)

def literalBody (close : List Char) (lineEnds : Bool) :
    List Char → Except Flaw (List Char × List Char)
  | [] => .error .malformed
  | c :: rest =>
    if close.isPrefixOf (c :: rest) then .ok ([], rest.drop (close.length - 1))
    else if isControl c && !(lineEnds && c = '\n') then .error .malformed
    else do
      let (text, rest) ← literalBody close lineEnds rest
      .ok (c :: text, rest)

/-- Up to two quotes in front of the closing three belong to the text. -/
def trailingQuotes (quote : String) : Reader (List Char) := do
  if ← takes quote then
    if ← takes quote then return quote.toList ++ quote.toList else return quote.toList
  else return []

def basicText : Reader String := do
  let s ← get
  let (text, rest) ← basicBody false s.length s
  set rest
  return String.ofList text

def literalText : Reader String := do
  let (text, rest) ← literalBody ['\''] false (← get)
  set rest
  return String.ofList text

/-- A text between threefold quotes; a line end right after the opening ones is dropped. -/
def multilineText (quote : String) (body : List Char → Except Flaw (List Char × List Char)) :
    Reader String := do
  discard <| takes "\n"
  let (text, rest) ← body (← get)
  set rest
  return String.ofList (text ++ (← trailingQuotes quote))

def text? : Reader (Option String) := do
  if ← takes "\"\"\"" then multilineText "\"" fun s => basicBody true s.length s
  else if ← takes "\"" then basicText
  else if ← takes "'''" then multilineText "'" (literalBody "'''".toList true)
  else if ← takes "'" then literalText
  else return none

def keyPart : Reader String := do
  if ← takes "\"" then basicText
  else if ← takes "'" then literalText
  else
    let bare ← takeWhile isBareKeyChar
    if bare.isEmpty then malformed else return String.ofList bare

def nextKeyPart? : Reader (Option String) := do
  skipSpaces
  if ← takes "." then
    skipSpaces
    return some (← keyPart)
  else return none

def moreKeyParts : (left : Nat) → Reader (List String)
  | 0 => do if (← nextKeyPart?).isSome then throw .longKey else return []
  | left + 1 => do
    match ← nextKeyPart? with
    | some part => return part :: (← moreKeyParts left)
    | none => return []

def maxKeyParts : Nat := 1000

def key : Reader (String × List String) := do
  let first ← keyPart
  return (first, ← moreKeyParts (maxKeyParts - 1))

end NodeReclaim.Toml
