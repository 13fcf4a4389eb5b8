import TokenBinding.Duration.Text
import TokenBinding.Json.Value
import TokenBinding.Metadata.Http
import TokenBinding.Verification.Expiry
import TokenBinding.Verification.Report

/-!
# Configuration

What a user can set: the log, how metadata is fetched, whether expiry is checked, and the providers.
Every setting has a default, and without providers the built-in ones are used.
-/

namespace TokenBinding

/-- The log: a level or filter directive, and the file it goes to instead of the standard error. -/
structure LogSettings where
  level : String := "info"
  file? : Option String := none
  deriving Repr, DecidableEq

/-- How documents and key sets are fetched. -/
structure MetadataSettings where
  timeout : Duration := .ofSeconds 10
  requireHttps : Bool := true
  deriving Repr, DecidableEq

/-- Whether the expiry of tokens is checked at the time of verification, and with what tolerance. -/
structure VerificationSettings where
  checkExpiry : Bool := false
  leeway : Duration := ExpiryPolicy.defaultLeeway
  deriving Repr, DecidableEq

structure Configuration where
  logging : LogSettings := {}
  metadata : MetadataSettings := {}
  verification : VerificationSettings := {}
  providers : List Provider := []
  deriving Repr, DecidableEq

namespace Configuration

/-- The providers in use: the configured ones if there are any, or else the built-in ones. -/
def registry (c : Configuration) : Registry := if c.providers = [] then .builtin else ⟨c.providers⟩

/-- What requests are held to. -/
def httpPolicy (c : Configuration) : Http.Policy := ⟨c.metadata.requireHttps⟩

/-- When expiry is checked, if verification takes place now. -/
def expiry (c : Configuration) (now : UInt64) : ExpiryPolicy :=
  if c.verification.checkExpiry then .at now else .ignore

open Json (Value)

/-- A configuration as a value. Durations are written as text. -/
def toValue (c : Configuration) : Value :=
  .object [
    ("logging", .object [("level", .text c.logging.level),
      ("file", (c.logging.file?.map Value.text).getD .null)]),
    ("metadata", .object [("timeout", .text c.metadata.timeout.text),
      ("require_https", .bool c.metadata.requireHttps)]),
    ("verification", .object [("check_expiry", .bool c.verification.checkExpiry),
      ("leeway", .text c.verification.leeway.text)]),
    ("providers", .array (c.providers.map Provider.toValue))]

end Configuration

end TokenBinding
