import TokenBinding.CommandLine.Output
import TokenBinding.Metadata.Http
import TokenBinding.Verification.Check

/-!
# Hosts

What a command needs of the system that it runs on: files, random bytes, the time, and the web. The
commands are the same over every host. What a run leaves to chance besides is settled by the host,
too: which of the required claims of a token is looked for first.
-/

namespace TokenBinding.CommandLine

/-- A system to run on. Paths are texts, as the user gave them. -/
structure Host (m : Type → Type) where
  /-- Where the configuration is if no path is given. -/
  configPath : m String
  /-- Whether there is something under a path. -/
  isThere : (path : String) → m Bool
  readFile : (path : String) → m (Except FileError String)
  writeFile : (path text : String) → m (Except FileError Unit)
  /-- Makes the directories that lead to a path, as far as they are not there. -/
  makeParents : (path : String) → m (Except FileError Unit)
  /-- Opens a file for text to be added to its end, and makes it if it is not there. -/
  openLog : (path : String) → m (Except FileError Unit)
  trueNonce : m TrueNonce
  salt : m Salt
  /-- Whole seconds since 1970. -/
  now : m UInt64
  web : Http.Web
  firstSought : (place : Nat) → RequiredClaim := fun _ => .audience

end TokenBinding.CommandLine
