import NodeReclaim.Value
import NodeReclaim.Value.Misuse

/-! Reasons to refuse a configuration. Syntax errors of the file are reported without their place
or cause. -/
namespace NodeReclaim

inductive SettingsError where
  | credential (shown : String)
  | notPositive (field : String)
  | tooFewAttempts
  | emptyTagKey
  | mistyped (m : Misuse)
  | missingFile (path : String)
  | malformed (path : String)
  | folder (path : String)
  | unreadableVariable (name raw : String)
deriving DecidableEq, Repr

def SettingsError.message : SettingsError → String
  | credential shown =>
    "Invalid credential type: " ++ shown ++ ". Expected one of: default, cli"
  | notPositive field => field ++ " must be positive"
  | tooFewAttempts => "retry_max_attempts must be at least 1"
  | emptyTagKey => "ownership_tag_key cannot be empty"
  | mistyped m => "Invalid configuration: " ++ m.message
  | missingFile path => "Config file not found: " ++ path
  | malformed path => "Failed to parse config file " ++ path ++ ": <toml>"
  | folder path =>
    "Failed to read config file " ++ path ++ ": [Errno 21] Is a directory: " ++
      Value.quotedText path
  | unreadableVariable name raw => "Invalid value for " ++ name ++ ": " ++ raw

end NodeReclaim
