import NodeReclaim.Command.Execution
import NodeReclaim.Program.Run
import NodeReclaim.Text.ControlSequence

/-! What a command leaves behind: an exit status and the texts of its two streams. Log entries go to
the error stream as they stand, printed lines go to either stream without control sequences. -/
namespace NodeReclaim

def Entry.isShown (verbose : Bool) (e : Entry) : Bool := verbose || e.level != .debug

def Entry.line (e : Entry) : String := e.level.name ++ " " ++ e.text

namespace Command

def lineOf (verbose : Bool) (stream : Stream) : Request → Option String
  | .print s line => if s = stream then some (Text.plain line) else none
  | .log e => if stream = .err && e.isShown verbose then some e.line else none
  | _ => none

def streamText (verbose : Bool) (stream : Stream) (trace : List Exchange) : String :=
  String.join ((trace.filterMap fun x => lineOf verbose stream x.request).map (· ++ "\n"))

def status (outcome : Except Fault Bool) : Nat :=
  match outcome with
  | .ok true => 0
  | .ok false | .error _ => 1

def misuseStatus : Nat := 2

def versionLine : String := "azteardown, version 0.1.0"

end Command

end NodeReclaim
