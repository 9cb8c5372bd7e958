import NodeReclaim.Timer
import NodeReclaim.Command.Output

/-! The command line. The provider is not part of this program, so its clients cannot be made here;
everything up to that point is done for real. -/
namespace NodeReclaim.Main

def noProvider : Fault := .raised .state (some "no provider is available") none

def look (path : Path) : IO FileEntry := do
  try return .file (← IO.FS.readBinFile path.text)
  catch
    | .inappropriateType .. => return .folder
    | _ => return .missing

def environment : IO (List (String × String)) :=
  Settings.knownVariables.filterMapM fun v => do
    return (← IO.getEnv v.name).map fun raw => (v.name, raw)

def host : IO Host := do
  let home := (← IO.getEnv "HOME").getD ""
  let current := (← IO.currentDir).toString
  return ⟨Path.goOn [] (Path.names home), Path.goOn [] (Path.names current), ← environment⟩

/-- The nanoseconds that a timer can count from its start. -/
def span : Nat := 9223372036854775807

def sleep (seconds : Value) : IO Unit :=
  match seconds.number? with
  | some n => match n.toFloat with
    | .ok x => IO.sleep (x * 1000).toUInt32
    | .error _ => pure ()
  | none => pure ()

def pause (seconds : Value) : IO (Except PauseError Unit) := do
  let taken := Timer.system span seconds
  if let .ok () := taken then sleep seconds
  return taken

def draw : IO Float := do
  let steps := Nat.pow 2 53
  return (← IO.rand 0 (steps - 1)).toFloat / steps.toFloat

def answer (verbose : Bool) : (r : Request) → IO r.Reply
  | .get _ _ | .beginDelete _ _ _ | .delete _ _ | .beginDeleteGroup _ _ | .wait _ _
  | .isDone _ | .status _ | .client _ _ _ _ | .invoke _ _ => return .error noProvider
  | .list _ => return ⟨[], some noProvider⟩
  | .credential kind => return .ok (.text kind.name)
  | .pause seconds => pause seconds
  | .draw => draw
  | .log entry => if entry.isShown verbose then IO.eprintln entry.line else pure ()
  | .host => host
  | .look path => look path
  | .print .out line => IO.println (Text.plain line)
  | .print .err line => IO.eprintln (Text.plain line)

def perform (verbose : Bool) : Program α → IO (Except Fault α)
  | .done a => return .ok a
  | .fail f => return .error f
  | .step r next => do perform verbose (next (← answer verbose r))

def usage : String :=
  "Usage: azteardown [--config PATH] [--subscription ID] [-v | --verbose] COMMAND ...\n" ++
    "       azteardown --version | --help\n" ++
    "\n" ++
    "Commands:\n" ++
    "  node GROUP/MACHINE [--report]  Delete a machine and the resources it owns.\n" ++
    "  security-group GROUP MACHINES  Delete a shared security group if unused.\n" ++
    "  group GROUP                    Delete a resource group if empty."

end NodeReclaim.Main

open NodeReclaim in
def main (arguments : List String) : IO UInt32 := do
  match Command.read arguments with
  | .help => IO.println Main.usage; return 0
  | .version => IO.println Command.versionLine; return 0
  | .misused => IO.eprintln Main.usage; return Command.misuseStatus.toUInt32
  | .brokenPath =>
    IO.eprintln Fault.nulInPath.message
    return (Command.status (.error .nulInPath)).toUInt32
  | .run i =>
    let outcome ← Main.perform i.verbose (Command.execute i .usual)
    if let .error f := outcome then IO.eprintln f.message
    return (Command.status outcome).toUInt32
