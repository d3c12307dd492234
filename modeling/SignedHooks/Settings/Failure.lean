/-
# Why there are no settings

A file that the command line names cannot be read or written or says
something wrong, the secret is missing, or a header is written in a way that
cannot be read. For some of these there is a hint what to do.

Key definitions: `Settings.Failure`, `Settings.Failure.message`,
`Settings.Failure.hint?`.
-/
import SignedHooks.Files.Fault
import SignedHooks.Settings.File

namespace SignedHooks
namespace Settings

/-- Why there are no settings. -/
inductive Failure where
  /-- A file cannot be read. -/
  | unreadable (path : String) (fault : Files.Fault)
  /-- A file cannot be written. -/
  | unwritable (path : String) (fault : Files.Fault)
  /-- The settings file is none. -/
  | malformed (fault : Fault)
  /-- No secret is given. -/
  | missingSecret
  /-- A line is no header. -/
  | invalidHeader (line : String)
  deriving DecidableEq, Repr

/-- How the secret can be given. -/
def secretHint : String := "Use --secret or set webhook.secret in config file"

/-- The wording of a failure. -/
def Failure.message : Failure → String
  | .unreadable path fault => "Failed to read file '" ++ path ++ "': " ++ fault.message
  | .unwritable path fault => "Failed to write config file '" ++ path ++ "': " ++ fault.message
  | .malformed fault => "Failed to parse TOML config: " ++ fault.message
  | .missingSecret => "Missing required field: " ++ secretName ++ ". " ++ secretHint
  | .invalidHeader line =>
    "Invalid header format '" ++ line ++ "': expected 'Key=Value' or 'Key: Value'"

/-- What to do about a failure. -/
def Failure.hint? : Failure → Option String
  | .missingSecret => some "Run 'usesend-webhooks init' to generate a configuration template."
  | .malformed _ => some "Run 'usesend-webhooks init' to see the expected configuration layout."
  | _ => none

end Settings
end SignedHooks
