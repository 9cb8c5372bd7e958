import NodeReclaim.Decimal.Reading
import NodeReclaim.Settings.Error

/-! Settings from environment variables. An empty variable counts as unset, and of two variables for
one field the later one in the list wins. -/
namespace NodeReclaim.Settings

inductive Conversion where
  | text
  | real
  | integer
deriving DecidableEq, Repr

def Conversion.apply? (c : Conversion) (raw : String) : Option Value :=
  match c with
  | text => some (.text raw)
  | real => (Decimal.real? raw.toList).map .float
  | integer => (Decimal.integer? raw.toList).map .int

structure Variable where
  name : String
  field : String
  conversion : Conversion

def knownVariables : List Variable :=
  [ ⟨"AZURE_SUBSCRIPTION_ID", "subscription_id", .text⟩,
    ⟨"AZTEARDOWN_SUBSCRIPTION_ID", "subscription_id", .text⟩,
    ⟨"AZTEARDOWN_CREDENTIAL", "credential", .text⟩,
    ⟨"AZTEARDOWN_DELETION_TIMEOUT", "deletion_timeout", .real⟩,
    ⟨"AZTEARDOWN_POLLING_INTERVAL", "polling_interval", .real⟩,
    ⟨"AZTEARDOWN_OWNERSHIP_TAG_KEY", "ownership_tag_key", .text⟩,
    ⟨"AZTEARDOWN_OWNERSHIP_TAG_VALUE", "ownership_tag_value", .text⟩,
    ⟨"AZTEARDOWN_NAMING_PREFIX", "naming_prefix", .text⟩,
    ⟨"AZTEARDOWN_RETRY_MAX_ATTEMPTS", "retry_max_attempts", .integer⟩ ]

/-- The text of a variable that is set and not empty. -/
def rawOf (environment : List (String × String)) (v : Variable) : Option String :=
  ((environment.find? fun e => e.1 == v.name).map (·.2)).filter fun raw => !raw.isEmpty

def overrideOf (environment : List (String × String)) (v : Variable) :
    Except SettingsError (Option (String × Value)) :=
  match rawOf environment v with
  | none => .ok none
  | some raw =>
    match v.conversion.apply? raw with
    | some value => .ok (some (v.field, value))
    | none => .error (.unreadableVariable v.name raw)

/-- Every field that the environment sets. The first variable that does not convert is reported. -/
def overrides (environment : List (String × String)) : Except SettingsError Table := do
  return Table.overlay [] ((← knownVariables.mapM (overrideOf environment)).filterMap fun o => o)

end NodeReclaim.Settings
