import TokenBinding.Configuration.Basic
import TokenBinding.Toml.Document

/-!
# Reading a configuration

A configuration is a TOML document. Keys that are not known are passed over, at every level. The
settings are read in the order in which they stand, and the first that is refused is the one that
counts.

A section may also be an array: of its settings, without their keys, in the order in which they are
listed here. Settings that are missing at its end are not set; items beyond them are passed over. A
date in place of a section sets nothing.
-/

namespace TokenBinding

/-- Why a text is no configuration. -/
inductive ConfigurationError where
  /-- The text is no TOML document, or a setting is not of its type. -/
  | malformed
  | duration (cause : Duration.ReadError)
  deriving Repr, DecidableEq

/-- What can be said of a refusal: the reason of a duration that was refused. -/
def ConfigurationError.message : ConfigurationError → String
  | .malformed => ""
  | .duration cause => cause.message

namespace Configuration

open Toml (Value)

/-- The result of reading a part of a configuration. -/
abbrev Read := Except ConfigurationError

/-- The settings of a section, by the names that the section knows. -/
def sectionEntries (names : List String) : Value → Read (List (String × Value))
  | .table entries => .ok entries
  | .array items => .ok (names.zip items)
  | .dateTime _ => .ok []
  | _ => .error .malformed

/-- Reads a section, setting after setting. -/
def readSection {σ : Type} (names : List String) (set : σ → String × Value → Read σ) (start : σ)
    (v : Value) : Read σ := do
  (← sectionEntries names v).foldlM set start

/-- Reads a text. -/
def readText : Value → Read String
  | .text s => .ok s
  | _ => .error .malformed

/-- Reads a truth value. -/
def readBool : Value → Read Bool
  | .bool b => .ok b
  | _ => .error .malformed

/-- Reads a duration. -/
def readDuration (v : Value) : Read Duration := do
  match Duration.ofText (← readText v) with
  | .ok d => return d
  | .error cause => .error (.duration cause)

/-- Sets one setting of the log. -/
def setLog (s : LogSettings) : String × Value → Read LogSettings
  | ("level", v) => do return { s with level := ← readText v }
  | ("file", v) => do return { s with file? := some (← readText v) }
  | _ => .ok s

/-- Sets one setting of fetching. -/
def setMetadata (s : MetadataSettings) : String × Value → Read MetadataSettings
  | ("timeout", v) => do return { s with timeout := ← readDuration v }
  | ("require_https", v) => do return { s with requireHttps := ← readBool v }
  | _ => .ok s

/-- Sets one setting of verification. -/
def setVerification (s : VerificationSettings) : String × Value → Read VerificationSettings
  | ("check_expiry", v) => do return { s with checkExpiry := ← readBool v }
  | ("leeway", v) => do return { s with leeway := ← readDuration v }
  | _ => .ok s

/-- A setting that has to be there. -/
def required (entries : List (String × Value)) (name : String) : Read String :=
  match entries.lookup name with
  | some v => readText v
  | none => .error .malformed

/-- Reads a provider, of which nothing may be missing. -/
def readProvider (v : Value) : Read Provider := do
  let entries ← sectionEntries ["display_id", "discovery_url", "client_id", "redirect_uri"] v
  return {
    displayId := ← required entries "display_id"
    discoveryUrl := ← required entries "discovery_url"
    clientId := ← required entries "client_id"
    redirectUri := ← required entries "redirect_uri" }

/-- Sets one section. -/
def setSection (c : Configuration) : String × Value → Read Configuration
  | ("logging", v) => do return { c with logging := ← readSection ["level", "file"] setLog {} v }
  | ("metadata", v) => do
    return { c with metadata := ← readSection ["timeout", "require_https"] setMetadata {} v }
  | ("verification", v) => do
    let read ← readSection ["check_expiry", "leeway"] setVerification {} v
    return { c with verification := read }
  | ("providers", .array items) => do return { c with providers := ← items.mapM readProvider }
  | ("providers", _) => .error .malformed
  | _ => .ok c

/-- The configuration that a text spells. -/
def parse (s : String) : Read Configuration :=
  match Toml.Document.read? s with
  | some entries => entries.foldlM setSection {}
  | none => .error .malformed

end Configuration

end TokenBinding
