import TokenBinding.Text.Segments

/-!
# Paths

What a POSIX system makes of the text of a path before it looks at a single file: the names that are
between the slashes, and the limits that a path and its names are held to. And what a system says of
a path that it cannot follow.

Empty names are left out. The names `.` and `..` stay, since both ask for a directory on their left.
A slash at the end asks for a directory too.
-/

namespace TokenBinding

/-- What the system says of a file that it cannot use. -/
structure FileError where
  description : String
  /-- The number of the error, if the system itself refused. -/
  code? : Option Nat
  deriving Repr, DecidableEq

namespace FileError

/-- The wording of a refusal. -/
def message (e : FileError) : String :=
  match e.code? with
  | some code => e.description ++ " (os error " ++ toString code ++ ")"
  | none => e.description

/-- There is nothing under a name. -/
def notFound : FileError := ⟨"No such file or directory", some 2⟩

/-- There is something under a name that was to be new. -/
def alreadyThere : FileError := ⟨"File exists", some 17⟩

/-- A file stands where a path goes on. -/
def notDirectory : FileError := ⟨"Not a directory", some 20⟩

/-- A directory stands where a file was meant. -/
def isDirectory : FileError := ⟨"Is a directory", some 21⟩

/-- A name or a whole path is beyond its limit. -/
def tooLong : FileError := ⟨"File name too long", some 36⟩

/-- No path holds the null character, so the system is not even asked. -/
def nullCharacter : FileError := ⟨"file name contained an unexpected NUL byte", none⟩

/-- A file that was to hold text is not UTF-8. -/
def notText : FileError := ⟨"stream did not contain valid UTF-8", none⟩

end FileError

namespace CommandLine

/-- A path, taken apart. -/
structure Path where
  /-- Whether it begins at the root. -/
  absolute : Bool
  names : List String
  /-- Whether a slash follows the last name. -/
  slashed : Bool
  deriving Repr, DecidableEq

namespace Path

/-- The most bytes that a path may have. -/
def greatestLength : Nat := 4095

/-- The most bytes that a name may have. -/
def greatestNameLength : Nat := 255

/-- What stands between the slashes of a path. -/
def segments (text : String) : List (List Char) := Text.segments '/' text.toList

/-- Takes a path apart. -/
def ofText (text : String) : Path where
  absolute := ['/'].isPrefixOf text.toList
  names := ((segments text).filter fun name => name ≠ []).map String.ofList
  slashed := (segments text).getLast? == some []

/-- Why no file can be under a path, whatever files there are. -/
def refusal? (text : String) : Option FileError :=
  if Char.ofNat 0 ∈ text.toList then some .nullCharacter
  else if text = "" then some .notFound
  else if greatestLength < text.utf8ByteSize then some .tooLong
  else none

/-- The beginnings of a path that end in a name proper, from the shortest on. -/
def beginnings (before : List (List Char)) : List (List Char) → List String
  | [] => []
  | name :: rest =>
    let here := before ++ [name]
    if name = [] ∨ name = ['.'] then beginnings here rest
    else String.ofList (Text.join '/' here) :: beginnings here rest

/-- The paths of the directories that a path leads through, from the innermost on. -/
def folders (text : String) : List String := (beginnings [] (segments text)).dropLast.reverse

end Path

end CommandLine

end TokenBinding
