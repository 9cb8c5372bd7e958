import NodeReclaim.Path
import NodeReclaim.Settings
import NodeReclaim.Settings.Environment
import NodeReclaim.Settings.Runtime

/-! Loading the settings: a file, over it the environment, under both the defaults. -/
namespace NodeReclaim.Settings
open Program

def refuse (e : SettingsError) : Program α := .fail (.settings e)

def defaultFile (home : Path) : Path.Spelling := ⟨home ++ [".azteardown", "config.toml"], false⟩

def customFile (custom : String) : Program Path.Spelling := do
  let path ← Path.resolve custom
  match ← path.follow with
  | .missing => refuse (.missingFile path.text)
  | .loop => .fail (.linkLoop path.text)
  | .tooLong => .fail (.nameTooLong path.text)
  | .folder | .file _ => pure path

/-- The file to read. An empty custom path counts as none. -/
def fileOf (custom : Option String) : Program Path.Spelling :=
  match custom.filter fun s => !s.isEmpty with
  | some s => customFile s
  | none => return defaultFile (← (ask .host : Program Host)).home

def parseFile (parse : Parser) (path : Path.Spelling) (bytes : ByteArray) : Except Fault Table :=
  match String.fromUTF8? bytes with
  | none => .error .undecodable
  | some document =>
    (parse document).mapError fun
      | .malformed => .settings (.malformed path.text)
      | .raised f => f

/-- Reads a file; one that does not exist holds nothing. -/
def readFile (parse : Parser) (path : Path.Spelling) : Program Table := do
  match ← path.follow with
  | .file bytes => ofExcept (parseFile parse path bytes)
  | .folder => refuse (.folder path.text)
  | .tooLong => .fail (.nameTooLong path.text)
  | .missing | .loop =>
    .log .debug .settings ("No config file at " ++ path.text ++ ", using defaults")
    pure []

def load (custom : Option String) (runtime : Runtime := .usual) : Program Settings := do
  let t ← readFile runtime.parse (← fileOf custom)
  let host ← (ask .host : Program Host)
  let changes ← ofExcept ((overrides host.environment).mapError .settings)
  ofTable (Table.overlay t changes) runtime.levels

end NodeReclaim.Settings
