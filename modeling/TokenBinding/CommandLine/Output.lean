import TokenBinding.Bundle
import TokenBinding.CommandLine.Path
import TokenBinding.Configuration.Reader
import TokenBinding.Nonce.Binder

/-!
# Output

What the commands print. A command prints its lines, and if it fails, it then says why: what was
printed before stays. A file that cannot be used is named in the error with what the system said.
-/

namespace TokenBinding

namespace CommandLine

/-! ## Errors -/

/-- Why a command failed. -/
inductive Failure where
  | hexArgument (what value : String) (cause : Text.Hex.Error)
  | nonce (cause : NonceError)
  | notBound (cause : NonceError)
  | verification (cause : VerifyError)
  | readBundle (path : String) (cause : FileError)
  | readConfiguration (path : String) (cause : FileError)
  | parseConfiguration (path : String) (cause : ConfigurationError)
  | openLog (path : String) (cause : FileError)
  | configurationThere (path : String)
  | createDirectory (cause : FileError)
  | writeConfiguration (path : String) (cause : FileError)
  deriving Repr, DecidableEq

namespace Failure

/-- The name of a file in a message, with what is wrong with it. -/
def ofFile (what path : String) (cause : FileError) : String :=
  "Failed to " ++ what ++ " '" ++ path ++ "': " ++ cause.message

/-- The wording of a failure. -/
def message : Failure → String
  | hexArgument what value cause =>
    "Invalid " ++ what ++ " '" ++ value ++ "': " ++ cause.message
  | nonce cause => cause.message
  | notBound cause => "❌ " ++ cause.message
  | verification cause => cause.message
  | readBundle path cause => ofFile "read bundle file" path cause
  | readConfiguration path cause => ofFile "read config file" path cause
  | parseConfiguration path _ => "Failed to parse config file '" ++ path ++ "'"
  | openLog path cause => ofFile "open log file" path cause
  | configurationThere path =>
    "Config file '" ++ path ++ "' already exists (use --force to overwrite)"
  | createDirectory cause => "Failed to create config directory: " ++ cause.message
  | writeConfiguration path cause => ofFile "write config file" path cause

end Failure

/-- What a command comes to. -/
structure Result where
  lines : List String := []
  failure? : Option Failure := none
  deriving Repr, DecidableEq

namespace Result

/-- A command that failed before it printed anything. -/
def failed (f : Failure) : Result := { failure? := some f }

/-- The result of a computation that may fail. -/
def ofExcept : Except Failure (List String) → Result
  | .ok lines => { lines := lines }
  | .error f => failed f

end Result

/-! ## Nonces -/

/-- Reads a key or a fingerprint. -/
def readHex (what value : String) : Except Failure Bytes :=
  match Text.Hex.decode (Text.trim value) with
  | .ok bytes => .ok bytes
  | .error cause => .error (.hexArgument what value cause)

/-- Reads a salt. -/
def readSalt (value : String) : Except Failure Salt :=
  match Salt.ofBase64 (Text.trim value) with
  | .ok salt => .ok salt
  | .error cause => .error (.nonce cause)

/-- The hash that binds a fingerprint to a salt, in hexadecimal. -/
def stretchLines (H : Digest) (fingerprint salt : String) : Except Failure (List String) := do
  let fingerprint ← readHex "fingerprint" fingerprint
  let salt ← readSalt salt
  return [(stretch H fingerprint salt.bytes).toHex]

/-- A compound nonce with the salt that it is under. What was drawn afresh is given to the function;
the salt is used only if none was given by the user. -/
def nonceLines (H : Digest) (trueNonce : TrueNonce) (fresh : Salt) (fingerprint : String)
    (salt? : Option String) : Except Failure (List String) := do
  let fingerprint ← readHex "fingerprint" fingerprint
  let salt ← match salt? with
    | some salt => readSalt salt
    | none => .ok fresh
  let nonce := (Binder.bind H {} trueNonce ⟨fingerprint⟩ salt).1
  return ["salt:  " ++ salt.toBase64, "nonce: " ++ nonce.text]

/-- The parts of a compound nonce. -/
def partLines (nonce : CompoundNonce) : List String :=
  ["true nonce:       " ++ Text.Base64.encode .standard nonce.trueNonce.bytes,
   "fingerprint hash: " ++ nonce.hash.toHex]

/-- Checks that a nonce is bound to a fingerprint and a salt. -/
def bindingLines (H : Digest) (nonce fingerprint salt : String) :
    Except Failure (List String) := do
  let fingerprint ← readHex "fingerprint" fingerprint
  let salt ← readSalt salt
  match (Binder.check H {} (some nonce) ⟨fingerprint⟩ salt).1 with
  | .ok () => return ["✅ Bound to the given fingerprint and salt"]
  | .error cause => .error (.notBound cause)

/-- Takes a compound nonce apart. Its parts are printed also where the check of its binding then
fails. -/
def parseNonce (H : Digest) (text : String) (binding? : Option (String × String)) : Result :=
  let text := Text.trim text
  match CompoundNonce.parse text with
  | .error cause => .failed (.nonce cause)
  | .ok nonce =>
    match binding? with
    | none => { lines := partLines nonce }
    | some (fingerprint, salt) =>
      let checked := Result.ofExcept (bindingLines H text fingerprint salt)
      { checked with lines := partLines nonce ++ checked.lines }

/-! ## Providers -/

/-- The lines on a provider. -/
def providerLines (p : Provider) : List String :=
  ["  " ++ p.displayId,
   "    issuer:    " ++ p.issuer?.getD "<discovery URL lacks the standard suffix>",
   "    client id: " ++ p.clientId,
   "    redirect:  " ++ p.redirectUri]

/-- The lines on all providers in use. -/
def registryLines (c : Configuration) : List String :=
  let source := if c.providers = [] then "built-in" else "configured"
  let providers := c.registry.providers
  (toString providers.length ++ " " ++ source ++ " provider(s):") ::
    providers.flatMap providerLines

/-! ## Reports -/

/-- The line on a token that was checked. -/
def outcomeLine (o : Outcome) : String :=
  match o.failure? with
  | none => "✅ " ++ o.claimedIdentity ++ " via " ++ o.provider.displayId
  | some failure =>
    "❌ " ++ o.claimedIdentity ++ " via " ++ o.provider.displayId ++ ": " ++ failure.message

/-- The lines of a report. -/
def reportLines (r : Report) : List String :=
  (if r.outcomes = [] then ["No identity claims could be evaluated"] else []) ++
    r.outcomes.map outcomeLine ++
    (if 0 < r.unevaluated then
      ["⚠️  " ++ toString r.unevaluated ++ " token(s) could not be evaluated"]
    else [])

/-! ## The program itself -/

/-- The name of the program and its version. -/
def versionLine : String := "idbind 0.1.0"

/-- What the program is and what it computes with. -/
def versionLines : List String :=
  [versionLine,
   "Safety-number binding for OpenID Connect ID tokens",
   "fingerprint v" ++ toString Fingerprint.version ++ ", stretch SHA-512 x " ++
     toString stretchRounds]

/-- What can be asked of the program. -/
def helpLines : List String :=
  ["Bind safety-number fingerprints to OpenID Connect ID tokens",
   "",
   "Usage: idbind [--config <PATH>] <COMMAND>",
   "",
   "Commands:",
   "  verify <BUNDLE>      Verify a received token bundle against the local fingerprint",
   "  stretch              Stretch a fingerprint with a salt",
   "  nonce                Form a fresh compound nonce for a fingerprint",
   "  parse-nonce <NONCE>  Decode a compound nonce and optionally check its binding",
   "  providers            List configured identity providers",
   "  init-config          Write a commented default config file",
   "  version              Display version information"]

end CommandLine

end TokenBinding
