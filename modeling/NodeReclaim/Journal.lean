/-! Log entries: a level, the part of the program that speaks, and a text. -/
namespace NodeReclaim

inductive Level where
  | debug
  | info
  | warning
  | error
deriving DecidableEq, Repr

namespace Level

def name : Level → String
  | debug => "DEBUG"
  | info => "INFO"
  | warning => "WARNING"
  | error => "ERROR"

end Level

inductive Area where
  | settings
  | retry
  | deletion
  | access
  | cleanup
deriving DecidableEq, Repr

structure Entry where
  level : Level
  area : Area
  text : String
  /-- Whether the entry carries the error it reports. -/
  withCause : Bool := false
deriving DecidableEq, Repr

end NodeReclaim
