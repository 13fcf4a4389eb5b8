import TokenBinding.Identity
import TokenBinding.Text.Segments

/-!
# Arguments

How the words behind the program's name are told apart. A word that begins with `--` is an option or
a flag; the value of an option stands behind `=` or is the next word, which must not look like an
option itself. A single hyphen is an ordinary word. Behind a lone `--` all words are ordinary.

Nothing may be given twice, and nothing that is not known may be given. The words are read from left
to right, so a request for help counts unless something before it is wrong.
-/

namespace TokenBinding.CommandLine

/-- A time in whole seconds: decimal digits, and perhaps a plus sign. -/
def readSeconds? (s : String) : Option UInt64 :=
  let digits := match s.toList with
    | '+' :: rest => rest
    | cs => cs
  if digits.isEmpty ∨ !digits.all Char.isDigit then none
  else
    let n := digits.foldl (fun n c => 10 * n + (c.toNat - 48)) 0
    if n < UInt64.size then some (UInt64.ofNat n) else none

/-- What the value of an option has to be. -/
inductive ValueKind where
  | any
  /-- A path, which is not empty. -/
  | path
  | role
  | seconds
  deriving Repr, DecidableEq

/-- Whether a value is of a kind. -/
def ValueKind.admits : ValueKind → String → Bool
  | any, _ => true
  | path, s => s ≠ ""
  | role, s => (Role.parse s).isOk
  | seconds, s => (readSeconds? s).isSome

/-- What may be given. -/
structure Grammar where
  options : List (String × ValueKind) := []
  flags : List String := []
  /-- How many ordinary words there may be. -/
  positionals : Nat := 0
  /-- The words that begin a command of its own. -/
  commands : List String := []
  hasVersion : Bool := false
  deriving Repr, DecidableEq

/-- What was given. -/
structure Matches where
  options : List (String × String) := []
  flags : List String := []
  positionals : List String := []
  deriving Repr, DecidableEq

/-- Why reading ended before the last word. -/
inductive Halt where
  | usage
  | help
  | version
  deriving Repr, DecidableEq

/-- The look of a word. -/
inductive Shape where
  /-- The lone `--`. -/
  | separator
  | long (name : String) (value? : Option String)
  | short (letter : Char)
  | ordinary
  deriving Repr, DecidableEq

/-- The look of a word. -/
def Shape.of (word : String) : Shape :=
  match word.toList with
  | ['-', '-'] => separator
  | '-' :: '-' :: rest =>
    match Text.cut? '=' rest with
    | some (name, value) => long (String.ofList name) (some (String.ofList value))
    | none => long (String.ofList rest) none
  | '-' :: letter :: _ => short letter
  | _ => ordinary

/-- A reader of arguments between two words. -/
structure Scan where
  found : Matches := {}
  /-- The option whose value is the next word. -/
  pending? : Option (String × ValueKind) := none
  /-- Whether all further words are ordinary. -/
  literal : Bool := false
  deriving Repr, DecidableEq

namespace Scan

/-- Takes an ordinary word. -/
def addPositional (g : Grammar) (s : Scan) (word : String) : Except Halt Scan :=
  if s.found.positionals.length < g.positionals then
    .ok { s with found := { s.found with positionals := s.found.positionals ++ [word] } }
  else .error .usage

/-- Takes the value of an option. -/
def addOption (s : Scan) (name : String) (kind : ValueKind) (value : String) : Except Halt Scan :=
  if (s.found.options.lookup name).isNone ∧ kind.admits value then
    .ok { s with
      found := { s.found with options := s.found.options ++ [(name, value)] }
      pending? := none }
  else .error .usage

/-- Takes a flag. -/
def addFlag (s : Scan) (name : String) : Except Halt Scan :=
  if s.found.flags.contains name then .error .usage
  else .ok { s with found := { s.found with flags := s.found.flags ++ [name] } }

/-- Takes a name, with the value that is attached to it if there is one. -/
def addLong (g : Grammar) (s : Scan) (name : String) (value? : Option String) :
    Except Halt Scan :=
  match g.options.lookup name, value? with
  | some kind, some value => s.addOption name kind value
  | some kind, none => .ok { s with pending? := some (name, kind) }
  | none, some _ => .error .usage
  | none, none =>
    if name = "help" then .error .help
    else if name = "version" ∧ g.hasVersion then .error .version
    else if g.flags.contains name then s.addFlag name
    else .error .usage

/-- Takes one word. -/
def step (g : Grammar) (s : Scan) (word : String) : Except Halt Scan :=
  if s.literal then s.addPositional g word
  else
    match s.pending?, Shape.of word with
    | some (name, kind), .ordinary => s.addOption name kind word
    | some _, _ => .error .usage
    | none, .separator => .ok { s with literal := true }
    | none, .long name value? => s.addLong g name value?
    | none, .short letter =>
      if letter = 'h' then .error .help
      else if letter = 'V' ∧ g.hasVersion then .error .version
      else .error .usage
    | none, .ordinary => s.addPositional g word

/-- Whether a word begins a command here. -/
def beginsCommand (g : Grammar) (s : Scan) (word : String) : Bool :=
  !s.literal && s.pending?.isNone && g.commands.contains word

/-- Reads words up to the one that begins a command, and gives that one with those behind it. -/
def run (g : Grammar) (s : Scan) :
    List String → Except Halt (Matches × Option (String × List String))
  | [] => if s.pending?.isSome then .error .usage else .ok (s.found, none)
  | word :: rest =>
    if s.beginsCommand g word then .ok (s.found, some (word, rest))
    else do run g (← s.step g word) rest

end Scan

end TokenBinding.CommandLine
