import NodeReclaim.Identifier.Node
import NodeReclaim.Naming
import NodeReclaim.Settings.Error
import NodeReclaim.Value

/-! Everything that can end an operation early, with one message each. Errors raised by a provider
or by the system have a class; the class decides which family they belong to and what stands in
for a missing text. Errors whose text cannot be had are left out. -/
namespace NodeReclaim

/-- The classes that the provider and the system raise, as a closed list. A class of two families is
not among them. -/
inductive ErrorClass where
  | http
  | notFound
  | alreadyExists
  | authentication
  | modified
  | notModified
  | decoding
  | incompleteRead
  | provider
  | request
  | requestTimeout
  | response
  | responseTimeout
  | serialization
  | deserialization
  | connection
  | connectionReset
  | connectionRefused
  | brokenPipe
  | timeout
  | system
  | permission
  | value
  | state
  | key
deriving DecidableEq, Repr

namespace ErrorClass

def isHttp : ErrorClass → Bool
  | http | notFound | alreadyExists | authentication | modified | notModified | decoding
  | incompleteRead => true
  | _ => false

def isTransport : ErrorClass → Bool
  | request | requestTimeout | response | responseTimeout => true
  | _ => false

def isProvider (c : ErrorClass) : Bool := c.isHttp || c.isTransport || c == provider

def isConnection : ErrorClass → Bool
  | connection | connectionReset | connectionRefused | brokenPipe | timeout => true
  | _ => false

/-- The text of an error that was given a text, or none. A missing key is shown quoted. -/
def text (c : ErrorClass) (given : Option String) : String :=
  match given with
  | none =>
    if c.isHttp then "Operation returned an invalid status 'None'"
    else if c.isProvider || c == serialization || c == deserialization then "None" else ""
  | some s =>
    if c.isHttp && s.isEmpty then "Operation returned an invalid status 'None'"
    else if c == key then Value.quotedText s else s

end ErrorClass

inductive ClientsError where
  | noSubscription
  | construction (reason : String)
deriving DecidableEq, Repr

def ClientsError.message : ClientsError → String
  | noSubscription =>
    "No subscription configured. Set AZURE_SUBSCRIPTION_ID or subscription_id in the config file."
  | construction reason => "Failed to create Azure clients: " ++ reason

/-- Why a timer does not take a pause: it is below zero, it is no number, or it cannot be counted. Systems word the
last in more than one way, of which one is kept. -/
inductive PauseError where
  | negative
  | unordered
  | uncountable
deriving DecidableEq, Repr

inductive Fault where
  | raised (cls : ErrorClass) (given : Option String) (status : Option Int)
  | identifier (e : IdentifierError)
  | naming (e : NamingError)
  | settings (e : SettingsError)
  | clients (e : ClientsError)
  | misuse (m : Misuse)
  | negativePause
  | unorderedPause
  | uncountablePause
  | tooManyDigits (count : Nat)
  | tooDeeplyNested (limit : Nat)
  | tooManyKeyParts (limit : Nat)
  | noAttempts (operation : String)
  | unknownHome
  | nulInPath
  | nameTooLong (path : String)
  | linkLoop (path : String)
  | undecodable
deriving DecidableEq, Repr

namespace Fault

def message : Fault → String
  | raised cls given _ => cls.text given
  | identifier e => e.message
  | naming e => e.message
  | settings e => e.message
  | clients e => e.message
  | misuse m => m.message
  | negativePause => "sleep length must be non-negative"
  | unorderedPause => "Invalid value NaN (not a number)"
  | uncountablePause => "timestamp too large to convert to C _PyTime_t"
  | tooManyDigits count =>
    "Exceeds the limit (4300 digits) for integer string conversion: value has " ++
      toString count ++ " digits; use sys.set_int_max_str_digits() to increase the limit"
  | tooDeeplyNested limit =>
    "TOML inline arrays/tables are nested more than the allowed " ++ toString limit ++ " levels"
  | tooManyKeyParts limit =>
    "TOML key has more than the allowed " ++ toString limit ++ " parts"
  | noAttempts operation => operation ++ " failed with unknown error"
  | unknownHome => "Could not determine home directory."
  | nulInPath => "embedded null byte"
  | nameTooLong path => "[Errno 36] File name too long: " ++ Value.quotedText path
  | linkLoop path => "Symlink loop from " ++ Value.quotedText path
  | undecodable => "text is not valid UTF-8"

def ofPause : PauseError → Fault
  | .negative => negativePause
  | .unordered => unorderedPause
  | .uncountable => uncountablePause

def isProvider : Fault → Bool
  | raised cls _ _ => cls.isProvider
  | _ => false

def isNotFound : Fault → Bool
  | raised .notFound _ _ => true
  | _ => false

end Fault

end NodeReclaim
