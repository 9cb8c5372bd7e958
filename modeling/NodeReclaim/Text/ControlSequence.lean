/-! Control sequences of a terminal: an escape character and an opening bracket, then parameters, then
intermediate characters, and a final character that ends the sequence. -/
namespace NodeReclaim.Text

def isParameter (c : Char) : Bool := '0' ≤ c && c ≤ '?'

def isIntermediate (c : Char) : Bool := ' ' ≤ c && c ≤ '/'

def isFinal (c : Char) : Bool := '@' ≤ c && c ≤ '~'

/-- How many characters a control sequence takes, if the text begins with one. The three classes of
characters are disjoint, so there is one way to read it. -/
def sequenceLength? : List Char → Option Nat
  | '\x1b' :: '[' :: rest =>
    let parameters := rest.takeWhile isParameter
    let others := rest.dropWhile isParameter
    let intermediates := others.takeWhile isIntermediate
    match others.dropWhile isIntermediate with
    | c :: _ => if isFinal c then some (parameters.length + intermediates.length + 3) else none
    | [] => none
  | _ => none

/-- Drops control sequences; `passing` characters of one are still to be passed over. -/
def withoutSequences (passing : Nat) : List Char → List Char
  | [] => []
  | c :: rest =>
    match passing with
    | passing + 1 => withoutSequences passing rest
    | 0 =>
      match sequenceLength? (c :: rest) with
      | some n => withoutSequences (n - 1) rest
      | none => c :: withoutSequences 0 rest

def plain (s : String) : String := String.ofList (withoutSequences 0 s.toList)

end NodeReclaim.Text
