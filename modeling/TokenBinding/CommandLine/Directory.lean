import TokenBinding.CommandLine.Host

/-!
# A directory in memory

A host for trying out commands: a working directory that is a value. It answers as a POSIX system
does. All names of a path but the last must lead to directories; what the last may lead to depends
on what is asked for. A file opened to be written may be new, but its path may not end in a slash,
in `.` or in `..`, which are refused before the last name is looked up.

Outside the working directory are the directories above it, in which nothing is, and a root with the
usual directories and the null device.
-/

namespace TokenBinding.CommandLine

/-- What stands under a path. -/
inductive DirectoryEntry where
  | file (text : String)
  | folder
  /-- A device that is always empty and takes everything. -/
  | null
  deriving Repr, DecidableEq

/-- A place in a system of files, as the names that lead there from the working directory. The name
`/` in front stands for the root, and `..` for each step above the working directory. -/
abbrev Place := List String

/-- A working directory and what is around it. -/
structure Directory where
  entries : List (Place × DirectoryEntry) :=
    (["/"], .folder) :: (["/", "dev", "null"], .null) ::
      ["bin", "dev", "etc", "home", "lib", "proc", "root", "run", "sbin", "sys", "tmp", "usr",
        "var"].map fun name => (["/", name], .folder)
  deriving Repr, DecidableEq

namespace Directory

/-! ## Places -/

/-- Whether a place is the working directory, or above it. -/
def isAbove (here : Place) : Bool := here.all (· == "..")

/-- What stands at a place. -/
def entry? (d : Directory) (here : Place) : Option DirectoryEntry :=
  if isAbove here then some .folder else d.entries.lookup here

/-- Puts something at a place. -/
def put (d : Directory) (here : Place) (e : DirectoryEntry) : Directory :=
  ⟨(here, e) :: d.entries.filter fun other => other.1 ≠ here⟩

/-- The directory that a directory is in. The root is in itself. -/
def above (here : Place) : Place :=
  if here = ["/"] then here
  else if isAbove here then here ++ [".."]
  else here.dropLast

/-- Looks a name up in a directory. -/
def lookup (d : Directory) (here : Place) (name : String) :
    Except FileError (Place × Option DirectoryEntry) :=
  if name = "." then .ok (here, some .folder)
  else if name = ".." then .ok (above here, some .folder)
  else if Path.greatestNameLength < name.utf8ByteSize then .error .tooLong
  else .ok (here ++ [name], d.entry? (here ++ [name]))

/-- Follows names that must all lead to directories. -/
def walk (d : Directory) (here : Place) : List String → Except FileError Place
  | [] => .ok here
  | name :: rest =>
    match d.lookup here name with
    | .error e => .error e
    | .ok (next, some .folder) => d.walk next rest
    | .ok (_, some _) => .error .notDirectory
    | .ok (_, none) => .error .notFound

/-- The directory that holds the last name of a path, and that name, if there is one. -/
def reach (d : Directory) (path : String) : Except FileError (Place × Option String) :=
  match Path.refusal? path with
  | some e => .error e
  | none =>
    let p := Path.ofText path
    (d.walk (if p.absolute then ["/"] else []) p.names.dropLast).map fun here =>
      (here, p.names.getLast?)

/-! ## Files -/

/-- What is under a path. -/
def find (d : Directory) (path : String) : Except FileError DirectoryEntry :=
  match d.reach path with
  | .error e => .error e
  | .ok (_, none) => .ok .folder
  | .ok (here, some name) =>
    match d.lookup here name with
    | .error e => .error e
    | .ok (_, none) => .error .notFound
    | .ok (_, some .folder) => .ok .folder
    | .ok (_, some e) => if (Path.ofText path).slashed then .error .notDirectory else .ok e

/-- Whether something is under a path. -/
def isThere (d : Directory) (path : String) : Bool := (d.find path).isOk

/-- Whether a directory is under a path. -/
def isFolder (d : Directory) (path : String) : Bool :=
  match d.find path with
  | .ok .folder => true
  | _ => false

/-- The text of a file. -/
def fileText (d : Directory) (path : String) : Except FileError String :=
  match d.find path with
  | .error e => .error e
  | .ok .folder => .error .isDirectory
  | .ok .null => .ok ""
  | .ok (.file text) => .ok text

/-- Whether the last name of a path can only be that of a directory. -/
def namesFolder (path name : String) : Bool :=
  name = "." || name = ".." || (Path.ofText path).slashed

/-- Opens a file to write to it, and changes its text. A new file begins empty. -/
def alterFile (d : Directory) (path : String) (change : String → String) :
    Except FileError Unit × Directory :=
  match d.reach path with
  | .error e => (.error e, d)
  | .ok (_, none) => (.error .isDirectory, d)
  | .ok (here, some name) =>
    if namesFolder path name then (.error .isDirectory, d)
    else
      match d.lookup here name with
      | .error e => (.error e, d)
      | .ok (_, some .folder) => (.error .isDirectory, d)
      | .ok (_, some .null) => (.ok (), d)
      | .ok (place, some (.file text)) => (.ok (), d.put place (.file (change text)))
      | .ok (place, none) => (.ok (), d.put place (.file (change "")))

/-! ## Directories -/

/-- Makes one directory, where nothing may be yet. -/
def makeFolder (d : Directory) (path : String) : Except FileError Unit × Directory :=
  match d.reach path with
  | .error e => (.error e, d)
  | .ok (_, none) => (.error .alreadyThere, d)
  | .ok (here, some name) =>
    match d.lookup here name with
    | .error e => (.error e, d)
    | .ok (_, some _) => (.error .alreadyThere, d)
    | .ok (place, none) => (.ok (), d.put place .folder)

/-- Makes one directory, or finds it there. -/
def ensureFolder (d : Directory) (path : String) : Except FileError Unit × Directory :=
  match d.makeFolder path with
  | (.error e, d) => if d.isFolder path then (.ok (), d) else (.error e, d)
  | made => made

/-- Makes the first of some directories. Where something on the way to it is missing, those behind
it in the list are made before it. -/
def makeFolders (d : Directory) : (paths : List String) → Except FileError Unit × Directory
  | [] => (.ok (), d)
  | path :: outer =>
    match d.ensureFolder path with
    | (.error e, d) =>
      if e = .notFound then
        match d.makeFolders outer with
        | (.ok (), d) => d.ensureFolder path
        | failed => failed
      else (.error e, d)
    | made => made

/-! ## The host -/

/-- The directory as a host. What is random is given beforehand, and nothing is on the web. -/
def host (trueNonce : TrueNonce) (salt : Salt) (now : UInt64) : Host (StateM Directory) where
  configPath := pure "idbind/config.toml"
  isThere path := do return (← get).isThere path
  readFile path := do return (← get).fileText path
  writeFile path text := modifyGet fun d => d.alterFile path fun _ => text
  makeParents path := modifyGet fun d => d.makeFolders (Path.folders path)
  openLog path := modifyGet fun d => d.alterFile path id
  trueNonce := pure trueNonce
  salt := pure salt
  now := pure now
  web := .unreachable

end Directory

end TokenBinding.CommandLine
