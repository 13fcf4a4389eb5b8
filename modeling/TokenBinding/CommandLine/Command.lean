import TokenBinding.CommandLine.Arguments

/-!
# Commands

What the program can be asked to do. The path of the configuration may be given before the name of
the command and behind it; the one behind it counts.
-/

namespace TokenBinding.CommandLine

/-- The identities of both parties, as they were given: keys in hexadecimal. -/
structure PartyArguments where
  selfId : String
  selfKey : String
  peerId : String
  peerKey : String
  deriving Repr, DecidableEq

/-- A fingerprint and a salt, as they were given. -/
structure BindingArguments where
  fingerprint : String
  salt : String
  deriving Repr, DecidableEq

inductive Command where
  /-- Checks the tokens of a bundle. -/
  | verify (bundle : String) (parties : PartyArguments) (role : Role) (at? : Option UInt64)
      (json : Bool)
  /-- Stretches a fingerprint with a salt. -/
  | stretch (binding : BindingArguments)
  /-- Forms a fresh compound nonce; without a salt, under a fresh one. -/
  | nonce (fingerprint : String) (salt? : Option String)
  /-- Takes a compound nonce apart, and checks what it is bound to. -/
  | parseNonce (nonce : String) (binding? : Option BindingArguments)
  | providers
  /-- Writes a configuration file. -/
  | initConfig (force : Bool)
  | version
  deriving Repr, DecidableEq

/-- A command and the path of the configuration that it is to use. -/
structure Invocation where
  config? : Option String
  command : Command
  deriving Repr, DecidableEq

namespace Command

/-- The options that name the parties. -/
def partyOptions : List (String × ValueKind) :=
  [("self-id", .any), ("self-key", .any), ("peer-id", .any), ("peer-key", .any)]

/-- What may be given to a command of this name. -/
def grammar? : String → Option Grammar
  | "verify" => some {
      options := partyOptions ++ [("role", .role), ("at", .seconds)]
      flags := ["json"], positionals := 1 }
  | "stretch" => some { options := [("fingerprint", .any), ("salt", .any)] }
  | "nonce" => some { options := [("fingerprint", .any), ("salt", .any)] }
  | "parse-nonce" => some { options := [("fingerprint", .any), ("salt", .any)], positionals := 1 }
  | "providers" => some {}
  | "init-config" => some { flags := ["force"] }
  | "version" => some {}
  | _ => none

/-- The names of the commands. -/
def names : List String :=
  ["verify", "stretch", "nonce", "parse-nonce", "providers", "init-config", "version"]

/-- The parties that were given. -/
def parties? (m : Matches) : Option PartyArguments := do
  return {
    selfId := ← m.options.lookup "self-id"
    selfKey := ← m.options.lookup "self-key"
    peerId := ← m.options.lookup "peer-id"
    peerKey := ← m.options.lookup "peer-key" }

/-- The binding that was given: both parts or none. -/
def binding? (m : Matches) : Option (Option BindingArguments) :=
  match m.options.lookup "fingerprint", m.options.lookup "salt" with
  | some fingerprint, some salt => some (some ⟨fingerprint, salt⟩)
  | none, none => some none
  | _, _ => none

/-- The command of a name, unless something that it needs was not given. -/
def ofMatches? (name : String) (m : Matches) : Option Command :=
  match name, m.positionals with
  | "verify", [wire] => do
    let role ← match m.options.lookup "role" with
      | some role => (Role.parse role).toOption
      | none => some .verifier
    return .verify wire (← parties? m) role ((m.options.lookup "at").bind readSeconds?)
      (m.flags.contains "json")
  | "stretch", [] => do
    return .stretch ⟨← m.options.lookup "fingerprint", (m.options.lookup "salt").getD ""⟩
  | "nonce", [] => do return .nonce (← m.options.lookup "fingerprint") (m.options.lookup "salt")
  | "parse-nonce", [text] => (binding? m).map (.parseNonce text)
  | "providers", [] => some .providers
  | "init-config", [] => some (.initConfig (m.flags.contains "force"))
  | "version", [] => some .version
  | _, _ => none

end Command

namespace Invocation

/-- The option that all commands have. -/
def configOption : String × ValueKind := ("config", .path)

/-- The word that asks for help with the commands named behind it. -/
def helpCommand : String := "help"

/-- What may be given before a command. -/
def outerGrammar : Grammar where
  options := [configOption]
  commands := helpCommand :: Command.names
  hasVersion := true

/-- What the words behind the name of a command ask for. -/
def parseCommand (outer : Matches) (name : String) (words : List String) :
    Except Halt Invocation :=
  match Command.grammar? name with
  | none =>
    match words with
    | [] => .error .help
    | [word] => .error (if outerGrammar.commands.contains word then .help else .usage)
    | _ => .error .usage
  | some grammar => do
    let (found, _) ← Scan.run { grammar with options := configOption :: grammar.options } {} words
    match Command.ofMatches? name found with
    | some command =>
      return ⟨found.options.lookup "config" <|> outer.options.lookup "config", command⟩
    | none => .error .usage

/-- What the words behind the program's name ask for. -/
def parse (words : List String) : Except Halt Invocation := do
  match ← Scan.run outerGrammar {} words with
  | (outer, some (name, words)) => parseCommand outer name words
  | (_, none) => .error .usage

end Invocation

end TokenBinding.CommandLine
