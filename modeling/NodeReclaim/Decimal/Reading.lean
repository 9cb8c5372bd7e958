import NodeReclaim.Text.Blank
import NodeReclaim.Text.Digit

/-! Numbers read from text. White space around them is ignored, digits of any script count, and
single underscores may stand between two digits. -/
namespace NodeReclaim.Decimal
open Text

def maxIntegerDigits : Nat := 4300

/-- White space around a numeral; unlike other blanks it leaves out the information separators. -/
def isMargin (c : Char) : Bool := isBlank c && !(0x1C ≤ c.toNat && c.toNat ≤ 0x1F)

def withoutMargins (s : List Char) : List Char :=
  ((s.dropWhile isMargin).reverse.dropWhile isMargin).reverse

/-- The digits of a run in which single underscores may stand between two digits. -/
def groupedDigits? : List Char → Option (List Nat)
  | [] => none
  | [c] => (digitValue? c).map fun d => [d]
  | c :: '_' :: rest => do
    let d ← digitValue? c
    let ds ← groupedDigits? rest
    some (d :: ds)
  | c :: rest => do
    let d ← digitValue? c
    let ds ← groupedDigits? rest
    some (d :: ds)

def takeSign : List Char → Bool × List Char
  | '-' :: rest => (true, rest)
  | '+' :: rest => (false, rest)
  | s => (false, s)

def integer? (s : List Char) : Option Int := do
  let (negative, rest) := takeSign (withoutMargins s)
  let digits ← groupedDigits? rest
  if maxIntegerDigits < digits.length then none
  else
    let n : Int := ofDigits 10 digits
    some (if negative then -n else n)

/-- Digits in place of those of other scripts, and no underscores; none when an underscore does not
stand between two digits. -/
def plainNumeral? (afterDigit : Bool) : List Char → Option (List Char)
  | [] => some []
  | '_' :: c :: rest =>
    if afterDigit && (digitValue? c).isSome then plainNumeral? false (c :: rest) else none
  | ['_'] => none
  | c :: rest =>
    match digitValue? c with
    | some d => (plainNumeral? true rest).map (Char.ofNat (0x30 + d) :: ·)
    | none => (plainNumeral? false rest).map (c :: ·)

def asciiLower (c : Char) : Char :=
  if 0x41 ≤ c.toNat && c.toNat ≤ 0x5A then Char.ofNat (c.toNat + 32) else c

/-- The double nearest to `coefficient * 10 ^ exponent`. Far exponents are cut off before any power
is computed: beyond them the result is zero or infinite. -/
def nearest (digits : List Nat) (exponent : Int) : Float :=
  let digits := digits.dropWhile (· == 0)
  let reach := exponent + digits.length
  if digits.isEmpty || reach < -330 then 0
  else if 310 < reach then 1 / 0
  else
    let n := ofDigits 10 digits
    if exponent < 0 then Float.ofScientific n true exponent.natAbs
    else Float.ofScientific n false exponent.toNat

def exponent? : List Char → Option Int
  | [] => some 0
  | mark :: rest =>
    if mark = 'e' || mark = 'E' then
      let (negative, digits) := takeSign rest
      if digits.isEmpty || !digits.all isDigit then none
      else
        let n : Int := ofDigits 10 (digits.map (·.toNat - 0x30))
        some (if negative then -n else n)
    else none

def magnitude? (s : List Char) : Option Float := do
  let whole := s.takeWhile isDigit
  let rest := s.dropWhile isDigit
  let (fraction, rest) := match rest with
    | '.' :: r => (r.takeWhile isDigit, r.dropWhile isDigit)
    | r => ([], r)
  let e ← exponent? rest
  if whole.isEmpty && fraction.isEmpty then none
  else some (nearest ((whole ++ fraction).map (·.toNat - 0x30)) (e - fraction.length))

def real? (s : List Char) : Option Float := do
  let plain ← plainNumeral? false (withoutMargins s)
  let (negative, rest) := takeSign plain
  let word := rest.map asciiLower
  let x ← if word == "inf".toList || word == "infinity".toList then some (1 / 0)
    else if word == "nan".toList then some (0 / 0)
    else magnitude? rest
  some (if negative then -x else x)

end NodeReclaim.Decimal
