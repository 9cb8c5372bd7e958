import NodeReclaim.Decimal.Reading
import NodeReclaim.Toml.Reader
import NodeReclaim.Value

/-! Numbers. Underscores may stand between two digits; only decimal integers may have a sign, and
they have no leading zeros. -/
namespace NodeReclaim.Toml
open Reader

/-- Digits up to the first character that is neither a digit nor an underscore before one. -/
def moreDigits (isDigit : Char → Bool) : List Char → List Char × List Char
  | [] => ([], [])
  | '_' :: c :: rest =>
    if isDigit c then
      let (digits, rest) := moreDigits isDigit rest
      (c :: digits, rest)
    else ([], '_' :: c :: rest)
  | c :: rest =>
    if isDigit c then
      let (digits, rest) := moreDigits isDigit rest
      (c :: digits, rest)
    else ([], c :: rest)

def digits? (isDigit : Char → Bool) : List Char → Option (List Char × List Char)
  | [] => none
  | c :: rest =>
    if isDigit c then
      let (digits, rest) := moreDigits isDigit rest
      some (c :: digits, rest)
    else none

def based? (base : Nat) (s : List Char) : Option (Int × List Char) := do
  let isDigit (c : Char) : Bool := (Text.hexValue? c).any (· < base)
  let (digits, rest) ← digits? isDigit s
  let values ← digits.mapM Text.hexValue?
  some (Text.ofDigits base values, rest)

def marked? : List Char → Option (Int × List Char)
  | '0' :: 'x' :: rest => based? 16 rest
  | '0' :: 'o' :: rest => based? 8 rest
  | '0' :: 'b' :: rest => based? 2 rest
  | _ => none

/-- Whole part of a decimal number: zero, or digits that do not begin with zero. -/
def whole? : List Char → Option (List Char × List Char)
  | '0' :: rest => some (['0'], rest)
  | s => digits? Text.isDigit s

def fraction : List Char → List Char × List Char
  | '.' :: rest =>
    match digits? Text.isDigit rest with
    | some (digits, after) => ('.' :: digits, after)
    | none => ([], '.' :: rest)
  | s => ([], s)

def signText (s : List Char) : List Char × List Char :=
  match s with
  | '+' :: rest => (['+'], rest)
  | '-' :: rest => (['-'], rest)
  | rest => ([], rest)

def exponent : List Char → List Char × List Char
  | [] => ([], [])
  | mark :: rest =>
    if mark = 'e' || mark = 'E' then
      let (sign, digits) := signText rest
      match digits? Text.isDigit digits with
      | some (digits, after) => (mark :: (sign ++ digits), after)
      | none => ([], mark :: rest)
    else ([], mark :: rest)

structure Numeral where
  sign : List Char
  whole : List Char
  fraction : List Char
  exponent : List Char

def numeral? (s : List Char) : Option (Numeral × List Char) := do
  let (sign, rest) := signText s
  let (whole, rest) ← whole? rest
  let (fraction, rest) := fraction rest
  let (exponent, rest) := exponent rest
  some (⟨sign, whole, fraction, exponent⟩, rest)

/-- A numeral with a fraction or an exponent is a double. -/
def Numeral.value (n : Numeral) : Except Flaw Value :=
  if n.fraction.isEmpty && n.exponent.isEmpty then
    match Decimal.integer? (n.sign ++ n.whole) with
    | some i => .ok (.int i)
    | none => .error (.oversized n.whole.length)
  else
    match Decimal.real? (n.sign ++ n.whole ++ n.fraction ++ n.exponent) with
    | some x => .ok (.float x)
    | none => .error .malformed

def special? : Reader (Option Value) := do
  let (sign, rest) := signText (← get)
  let word := rest.take 3
  if word == "inf".toList || word == "nan".toList then
    set (rest.drop 3)
    return (Decimal.real? (sign ++ word)).map .float
  else return none

def number? : Reader (Option Value) := do
  match ← tryTake marked? with
  | some n => return some (.int n)
  | none =>
    match ← tryTake numeral? with
    | some n => return some (← n.value)
    | none => special?

end NodeReclaim.Toml
