import Std.Time.DateTime.Timestamp
import TokenBinding.CommandLine.Run

/-!
# The program

The commands over the real system. There is no network client: every request to the web fails, as on
a machine that is offline.
-/

namespace TokenBinding.CommandLine.System

/-- What the system said, by its number, which may come with a minus sign. -/
def fileErrorOf (code : UInt32) (details : String) : FileError :=
  let number := if code < 0x80000000 then code.toNat else (0 - code).toNat
  let known := [FileError.notFound, .alreadyThere, .notDirectory, .isDirectory, .tooLong]
  (known.find? fun e => e.code? == some number).getD ⟨details, some number⟩

/-- What the system said. -/
def fileError : IO.Error → FileError
  | .noFileOrDirectory _ code details => fileErrorOf code details
  | .alreadyExists _ code details => fileErrorOf code details
  | .inappropriateType _ code details => fileErrorOf code details
  | .permissionDenied _ code details => fileErrorOf code details
  | .resourceExhausted _ code details => fileErrorOf code details
  | .invalidArgument _ code details => fileErrorOf code details
  | .noSuchThing _ code details => fileErrorOf code details
  | .otherError code details => fileErrorOf code details
  | e => ⟨toString e, none⟩

/-- An action on the file under a path, with what the system says if it fails. -/
def onFile {α : Type} (path : String) (action : IO α) : IO (Except FileError α) := do
  match Path.refusal? path with
  | some e => return .error e
  | none =>
    try
      return .ok (← action)
    catch e =>
      return .error (fileError e)

/-- Whether something is under a path. -/
def isThere (path : String) : IO Bool := do
  return (← onFile path (IO.FS.realPath path)).isOk

/-- Makes a directory, or finds it there. -/
def ensureFolder (path : String) : IO (Except FileError Unit) := do
  match ← onFile path (IO.FS.createDir path) with
  | .ok () => return .ok ()
  | .error e => if ← isThere (path ++ "/.") then return .ok () else return .error e

/-- Makes the first of some directories, those behind it before it where they are missing. -/
def makeFolders : (paths : List String) → IO (Except FileError Unit)
  | [] => return .ok ()
  | path :: outer => do
    match ← ensureFolder path with
    | .ok () => return .ok ()
    | .error e =>
      if e = .notFound then
        match ← makeFolders outer with
        | .ok () => ensureFolder path
        | .error e => return .error e
      else return .error e

/-- The text of a file. -/
def fileText (path : String) : IO (Except FileError String) := do
  match ← onFile path (IO.FS.readBinFile path) with
  | .error e => return .error e
  | .ok bytes =>
    match Bytes.toText? bytes.toList with
    | some text => return .ok text
    | none => return .error .notText

/-- Where configurations are kept. -/
def configDirectory : IO String := do
  match ← IO.getEnv "XDG_CONFIG_HOME", ← IO.getEnv "HOME" with
  | some directory, home? =>
    if ['/'].isPrefixOf directory.toList then return directory
    else return (home?.map (· ++ "/.config")).getD "."
  | none, home? => return (home?.map (· ++ "/.config")).getD "."

/-- So many bytes that nobody knows yet. -/
def randomBytes (n : USize) : IO Bytes := do
  return (← IO.getRandomBytes n).toList

/-- The system that the program runs on. -/
def host : Host IO where
  configPath := do return (← configDirectory) ++ "/idbind/config.toml"
  isThere := isThere
  readFile := fileText
  writeFile path text := onFile path (IO.FS.writeFile path text)
  makeParents path := makeFolders (Path.folders path)
  openLog path := onFile path do
    let log ← IO.FS.Handle.mk path .append
    log.flush
  trueNonce := do
    match TrueNonce.ofBytes? (← randomBytes 32) with
    | some nonce => return nonce
    | none => throw (IO.userError "too few random bytes")
  salt := do return ⟨← randomBytes 32⟩
  now := do
    let time ← Std.Time.Timestamp.now
    return UInt64.ofNat time.toSecondsSinceUnixEpoch.toInt.toNat
  web := .unreachable

end TokenBinding.CommandLine.System

/-- Runs the command that the words ask for. -/
def main (words : List String) : IO UInt32 := do
  let output ← TokenBinding.CommandLine.execute .sha512 TokenBinding.CommandLine.System.host words
  IO.print (TokenBinding.CommandLine.Output.printed output.standardOutput)
  IO.eprint (TokenBinding.CommandLine.Output.printed output.standardError)
  return output.exitCode.toUInt32
