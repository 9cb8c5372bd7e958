import NodeReclaim.Program
import NodeReclaim.Value.Order
import NodeReclaim.Value.Shown

/-! The settings of a run, and how they are read from a table. Only the kinds of values that a check
compares are checked; other fields are kept as they stand. -/
namespace NodeReclaim

structure Settings where
  subscription : Value
  credential : CredentialKind
  deletionTimeout : Value
  pollingInterval : Value
  ownershipKey : Value
  ownershipValue : Value
  namingLead : Value
  namingDelimiter : Value
  retryAttempts : Value
  retryInitialDelay : Value
  retryMaxDelay : Value

namespace Settings

def defaults : Table :=
  [ ("subscription_id", .null),
    ("credential", .text "default"),
    ("deletion_timeout", .float 600),
    ("polling_interval", .float 15),
    ("ownership_tag_key", .text "managed-by"),
    ("ownership_tag_value", .text "azteardown"),
    ("naming_prefix", .text "azteardown"),
    ("naming_delimiter", .text "-"),
    ("retry_max_attempts", .int 3),
    ("retry_initial_delay", .float 1),
    ("retry_max_delay", .float 30) ]

def isKnown (key : String) : Bool := defaults.any fun e => e.1 == key

def unknownKeys (t : Table) : List String :=
  ((t.map (·.1)).filter fun key => !isKnown key).mergeSort fun a b => decide (a ≤ b)

def fieldOf (t : Table) (name : String) : Value :=
  ((Table.get? t name).or (Table.get? defaults name)).getD .null

/-- The kind of credential a value names. A value that cannot be written into the refusal is a
misuse instead. -/
def readCredential (levels : Nat) (v : Value) : Except Fault CredentialKind :=
  match v with
  | .text "default" => .ok .standard
  | .text "cli" => .ok .commandLine
  | v =>
    match v.shown levels with
    | .ok shown => .error (.settings (.credential shown))
    | .error m => .error (.misuse m)

def refuseIf (comparison : Except Misuse Bool) (e : SettingsError) : Except Fault Unit :=
  match comparison with
  | .ok true => .error (.settings e)
  | .ok false => .ok ()
  | .error m => .error (.settings (.mistyped m))

/-- Reads the fields; the checks come in the order given here. -/
def read (levels : Nat) (t : Table) : Except Fault Settings := do
  let field := fieldOf t
  let credential ← readCredential levels (field "credential")
  refuseIf ((field "deletion_timeout").isAtMost 0) (.notPositive "deletion_timeout")
  refuseIf ((field "polling_interval").isAtMost 0) (.notPositive "polling_interval")
  refuseIf ((field "retry_max_attempts").isBelow 1) .tooFewAttempts
  refuseIf (.ok !(field "ownership_tag_key").isTruthy) .emptyTagKey
  return {
    credential
    subscription := field "subscription_id"
    deletionTimeout := field "deletion_timeout"
    pollingInterval := field "polling_interval"
    ownershipKey := field "ownership_tag_key"
    ownershipValue := field "ownership_tag_value"
    namingLead := field "naming_prefix"
    namingDelimiter := field "naming_delimiter"
    retryAttempts := field "retry_max_attempts"
    retryInitialDelay := field "retry_initial_delay"
    retryMaxDelay := field "retry_max_delay" }

def toTable (s : Settings) : Table :=
  [ ("subscription_id", s.subscription),
    ("credential", .text s.credential.name),
    ("deletion_timeout", s.deletionTimeout),
    ("polling_interval", s.pollingInterval),
    ("ownership_tag_key", s.ownershipKey),
    ("ownership_tag_value", s.ownershipValue),
    ("naming_prefix", s.namingLead),
    ("naming_delimiter", s.namingDelimiter),
    ("retry_max_attempts", s.retryAttempts),
    ("retry_initial_delay", s.retryInitialDelay),
    ("retry_max_delay", s.retryMaxDelay) ]

def ofTable (t : Table) (levels : Nat := Value.usualLevels) : Program Settings := do
  let unknown := unknownKeys t
  unless unknown.isEmpty do
    .log .warning .settings ("Ignoring unknown config keys: " ++ ", ".intercalate unknown)
  .ofExcept (read levels t)

end Settings

end NodeReclaim
