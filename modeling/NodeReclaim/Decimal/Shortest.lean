import NodeReclaim.Decimal.Fixed

/-! The fewest decimal digits that read back as a given double, and among those the nearest to it.
For one, two, up to seventeen digits the two neighbours of the value on that decimal grid are
tested against the interval of reals that round to the double. -/
namespace NodeReclaim.Decimal

structure Scaled where
  coefficient : Nat
  exponent : Int
deriving DecidableEq, Repr

/-- The greatest `e` with `10 ^ e ≤ n / d`, for positive `n` and `d`. -/
def decimalExponent (n d : Nat) : Int :=
  if d ≤ n then ((Nat.toDigits 10 (n / d)).length : Int) - 1
  else
    let digits := (Nat.toDigits 10 (d / n)).length
    if d ≤ n * Nat.pow 10 (digits - 1) then -((digits : Int) - 1) else -(digits : Int)

/-- The point of the grid of multiples of `10 ^ u` that reads back as `mantissa * 2 ^ q`, when one
does. Both scales are cleared of fractions: a point `c` lies at `c * grid`, the double at
`4 * mantissa * unit`, and its rounding interval reaches two units up and two (or, under a power
of two, one) down. -/
def gridPoint? (b : Binary) (u : Int) : Option Nat :=
  let q := b.exponent - 2
  let grid := Nat.pow 10 u.toNat * Nat.pow 2 (-q).toNat
  let unit := Nat.pow 2 q.toNat * Nat.pow 10 (-u).toNat
  let m := 4 * b.mantissa
  let below := if b.mantissa = Nat.pow 2 52 && b.exponent != -1074 then 1 else 2
  let inside (c : Nat) : Bool :=
    if b.mantissa % 2 = 0 then (m - below) * unit ≤ c * grid && c * grid ≤ (m + 2) * unit
    else (m - below) * unit < c * grid && c * grid < (m + 2) * unit
  let low := m * unit / grid
  let high := low + 1
  match inside low, inside high with
  | false, false => none
  | true, false => some low
  | false, true => some high
  | true, true =>
    let down := m * unit - low * grid
    let up := high * grid - m * unit
    some (if down < up then low else if up < down then high
      else if low % 2 = 0 then low else high)

def Scaled.normal : Nat → Scaled → Scaled
  | 0, s => s
  | fuel + 1, s =>
    if s.coefficient != 0 && s.coefficient % 10 = 0 then
      Scaled.normal fuel ⟨s.coefficient / 10, s.exponent + 1⟩
    else s

/-- Shortest decimal of a nonzero magnitude. Seventeen digits always read back. -/
def shortest (b : Binary) : Scaled :=
  let e := decimalExponent b.ratio.1 b.ratio.2
  let found := (List.range 17).findSome? fun (k : Nat) =>
    (gridPoint? b (e - k)).map fun c => (⟨c, e - k⟩ : Scaled)
  (found.getD ⟨b.mantissa, 0⟩).normal 20

/-- How decimals are laid out: which exponents are written without `e`, whether a whole number
keeps a point and a zero, and the least number of exponent digits. -/
structure Layout where
  leastPlain : Int
  mostPlain : Int
  keepsPoint : Bool
  exponentDigits : Nat

def Layout.exponentText (l : Layout) (e : Int) : List Char :=
  let digits := Nat.toDigits 10 e.natAbs
  'e' :: (if e < 0 then '-' else '+') ::
    (List.replicate (l.exponentDigits - digits.length) '0' ++ digits)

def Layout.magnitude (l : Layout) (s : Scaled) : List Char :=
  let digits := Nat.toDigits 10 s.coefficient
  let e := s.exponent + digits.length - 1
  if l.leastPlain ≤ e && e ≤ l.mostPlain then
    if e < 0 then '0' :: '.' :: (List.replicate ((-e).toNat - 1) '0' ++ digits)
    else
      let whole := e.toNat + 1
      let front := digits.take whole ++ List.replicate (whole - digits.length) '0'
      let back := digits.drop whole
      if back.isEmpty then if l.keepsPoint then front ++ ['.', '0'] else front
      else front ++ '.' :: back
  else
    let back := digits.drop 1
    digits.take 1 ++ (if back.isEmpty then [] else '.' :: back) ++ l.exponentText e

def Layout.render (l : Layout) (x : Float) : List Char :=
  match parts x with
  | .nan => "nan".toList
  | .infinite negative => signed negative "inf".toList
  | .finite b => signed b.negative (l.magnitude (if b.mantissa = 0 then ⟨0, 0⟩ else shortest b))

end NodeReclaim.Decimal
