import NodeReclaim.Decimal.Binary

/-! Numbers with a fixed count of decimal places, rounded once from the exact value of the double.
A half goes to the even neighbour and a negative sign is kept even over zeros. -/
namespace NodeReclaim.Decimal

/-- Digits of a count of units, with the point before the last `places` of them. -/
def placeDigits (places units : Nat) : List Char :=
  let digits := Nat.toDigits 10 units
  let padded := List.replicate (places + 1 - digits.length) '0' ++ digits
  let whole := padded.take (padded.length - places)
  if places = 0 then whole else whole ++ '.' :: padded.drop (padded.length - places)

def signed (negative : Bool) (text : List Char) : List Char :=
  if negative then '-' :: text else text

def fixed (places : Nat) (x : Float) : List Char :=
  match parts x with
  | .nan => "nan".toList
  | .infinite negative => signed negative "inf".toList
  | .finite b =>
    signed b.negative (placeDigits places (roundHalfEven (b.ratio.1 * Nat.pow 10 places) b.ratio.2))

end NodeReclaim.Decimal
