import TokenBinding.CommandLine.Command
import TokenBinding.CommandLine.Host
import TokenBinding.Configuration.Template
import TokenBinding.Json.Printer
import TokenBinding.Verification.Pass

/-!
# Running commands

A command is run in order: the configuration is read, the log is opened, and then the command does
its work. Writing a configuration file needs neither, so that it also works where the one that is
there is broken.

A run ends with an exit code: 0 for a success, 1 for a failure, 2 for words that ask for nothing
that there is.
-/

namespace TokenBinding.CommandLine

/-- What a run leaves behind besides files. -/
structure Output where
  exitCode : UInt8 := 0
  standardOutput : List String := []
  standardError : List String := []
  deriving Repr, DecidableEq

namespace Output

/-- Lines, each with its end, as they are printed. -/
def printed (lines : List String) : String := String.join (lines.map (· ++ "\n"))

/-- The output of a command. -/
def ofResult (r : Result) : Output :=
  match r.failure? with
  | none => { standardOutput := r.lines }
  | some failure => {
      exitCode := 1
      standardOutput := r.lines
      standardError := ["Error: " ++ failure.message] }

/-- The output where no command is run. -/
def ofHalt : Halt → Output
  | .usage => {
      exitCode := 2
      standardError := ["error: the arguments ask for nothing that there is", "",
        "For more information, try '--help'."] }
  | .help => { standardOutput := helpLines }
  | .version => { standardOutput := [versionLine] }

end Output

variable {m : Type → Type} [Monad m]

/-- A computation on a host that may fail. -/
abbrev Action (m : Type → Type) := ExceptT Failure m

/-- An action of the host on a file, with the failure that it comes to if the file cannot be
used. -/
def onFile {α : Type} (failure : FileError → Failure) (action : m (Except FileError α)) :
    Action m α :=
  ExceptT.mk do
    match ← action with
    | .ok a => return .ok a
    | .error cause => return .error (failure cause)

/-- The configuration under a path: the defaults, if there is nothing. -/
def loadConfiguration (host : Host m) (path : String) : Action m Configuration := do
  if ← host.isThere path then
    let text ← onFile (.readConfiguration path) (host.readFile path)
    match Configuration.parse text with
    | .ok c => return c
    | .error cause => throw (.parseConfiguration path cause)
  else return {}

/-- Opens the log, if it goes to a file. -/
def openLog (host : Host m) (s : LogSettings) : Action m Unit :=
  match s.file? with
  | some path => onFile (.openLog path) (host.openLog path)
  | none => pure ()

/-- Writes a configuration file. One that is there is kept unless that is forced. -/
def initConfig (host : Host m) (path : String) (force : Bool) : Action m (List String) := do
  if (← host.isThere path) && !force then throw (.configurationThere path)
  else
    onFile .createDirectory (host.makeParents path)
    onFile (.writeConfiguration path) (host.writeFile path Configuration.template)
    return ["✅ Wrote default configuration to " ++ path]

/-- The text of a bundle: the word itself, or the contents of the file named behind an `@`. -/
def readBundle (host : Host m) (word : String) : Action m String :=
  match word.toList with
  | '@' :: path => do
    let path := String.ofList path
    return Text.trim (← onFile (.readBundle path) (host.readFile path))
  | _ => pure word

/-- The identity of a party. Its name counts as bytes. -/
def readParty (what id key : String) : Except Failure PartyIdentity := do
  return { stableId := Bytes.ofText id, publicKey := ← readHex what key }

/-- The engine that checks bundles on a host, for a configuration and the identities of both
parties. -/
def engine (H : Digest) (host : Host m) (c : Configuration) (self peer : PartyIdentity) :
    Verification.Engine where
  digest := H
  publicKeyCheck := .none
  identities := { self := .ok self, peer := fun _ => .ok peer }
  fingerprints := Fingerprint.compute H Fingerprint.defaultIterations
  resolver := Http.resolver host.web c.httpPolicy
  registry := c.registry
  leeway := c.verification.leeway
  firstSought := host.firstSought

/-- Checks a bundle. The time that the user gives goes before the one of the configuration. -/
def verify (H : Digest) (host : Host m) (c : Configuration) (bundle : String)
    (parties : PartyArguments) (role : Role) (at? : Option UInt64) (json : Bool) :
    Action m (List String) := do
  let wire ← readBundle host bundle
  let self ← ExceptT.mk (pure (readParty "self-key" parties.selfId parties.selfKey))
  let peer ← ExceptT.mk (pure (readParty "peer-key" parties.peerId parties.peerKey))
  let now ← host.now
  let expiry := match at? with
    | some time => .at time
    | none => c.expiry now
  let pass := (engine H host c self peer).run {} {
    wire := wire, peer := ⟨parties.peerId⟩, role := role, expiry := expiry }
  match pass.result with
  | .error cause => throw (.verification cause)
  | .ok report => return if json then [report.toValue.pretty] else reportLines report

/-- Runs a command that needs the configuration. -/
def runConfigured (H : Digest) (host : Host m) (c : Configuration) : Command → m Result
  | .verify bundle parties role at? json => do
    return Result.ofExcept (← (verify H host c bundle parties role at? json).run)
  | .stretch binding => pure (.ofExcept (stretchLines H binding.fingerprint binding.salt))
  | .nonce fingerprint salt? => do
    return .ofExcept (nonceLines H (← host.trueNonce) (← host.salt) fingerprint salt?)
  | .parseNonce nonce binding? =>
    pure (parseNonce H nonce (binding?.map fun b => (b.fingerprint, b.salt)))
  | .providers => pure { lines := registryLines c }
  | .initConfig _ => pure {}
  | .version => pure { lines := versionLines }

/-- Runs what was asked for. -/
def run (H : Digest) (host : Host m) (i : Invocation) : m Result := do
  let path ← match i.config? with
    | some path => pure path
    | none => host.configPath
  match i.command with
  | .initConfig force => return Result.ofExcept (← (initConfig host path force).run)
  | command =>
    let loaded : Action m Configuration := do
      let c ← loadConfiguration host path
      openLog host c.logging
      return c
    match ← loaded.run with
    | .error failure => return .failed failure
    | .ok c => runConfigured H host c command

/-- Runs the program on the words behind its name. -/
def execute (H : Digest) (host : Host m) (words : List String) : m Output :=
  match Invocation.parse words with
  | .error halt => pure (.ofHalt halt)
  | .ok i => do return .ofResult (← run H host i)

end TokenBinding.CommandLine
