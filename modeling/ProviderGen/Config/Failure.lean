import ProviderGen.Config.Basic
import ProviderGen.Files.Failure

/-!
Why a configuration cannot be loaded: its file cannot be read, its document does not have the
shape of a configuration, or the configuration breaks a rule.
-/

namespace ProviderGen

inductive ShapeFault where
  /-- The text is no document at all; the message is a stand-in for the place and the reason. -/
  | malformed
  | missingField (field : String)
  | wrongType (found expected : String)
  /-- An array in a table's place ends before a field that has no default. -/
  | wrongLength (length : Nat) (expected : String)
deriving DecidableEq, Repr

def ShapeFault.message : ShapeFault → String
  | .malformed => "<toml>"
  | .missingField field => "missing field `" ++ field ++ "`"
  | .wrongType found expected => "invalid type: " ++ found ++ ", expected " ++ expected
  | .wrongLength length expected =>
    "invalid length " ++ toString length ++ ", expected " ++ expected

inductive ConfigFailure where
  | unreadable (path : HostPath) (cause : IoFailure)
  | misshapen (cause : ShapeFault)
  | invalid (cause : ConfigFault)
deriving DecidableEq, Repr

def ConfigFailure.message : ConfigFailure → String
  | .unreadable path cause => "cannot read provider config " ++ path.text ++ ": " ++ cause.message
  | .misshapen cause => "cannot parse provider config: " ++ cause.message
  | .invalid cause => "invalid provider config: " ++ cause.message

/-- The messages of the causes below, outermost first. A broken rule is told in one message. -/
def ConfigFailure.causes : ConfigFailure → List String
  | .unreadable _ cause => [cause.message]
  | .misshapen cause => [cause.message]
  | .invalid _ => []

def Config.validate (config : Config) : Except ConfigFailure Unit :=
  match config.fault? with
  | some fault => .error (.invalid fault)
  | none => .ok ()

end ProviderGen
