/-!
# Readings

A value inside a document may keep the grammar and still not be readable: a literal that spells no
text, a number out of range. Who reads it then refuses it, and has come to a stop somewhere. Most
readers give up the document with the value. A reader that passes over what it cannot read goes on
from where it stopped, which works only if it stopped behind the value.
-/

namespace TokenBinding.Json

/-- Where the reader of a value stops when it refuses the value. -/
inductive Stop where
  /-- Behind the value, as if it had been read. -/
  | atEnd
  /-- Before the end of the value. -/
  | inside
  deriving Repr, DecidableEq

/-- What reading comes to. -/
abbrev Reading := Except Stop

namespace Reading

/-- What was read, if it could be read. -/
def value? {α : Type} : Reading α → Option α
  | .ok a => some a
  | .error _ => none

/-- Whether the reader got behind the value, with it or without it. -/
def passed {α : Type} : Reading α → Bool
  | .ok _ => true
  | .error .atEnd => true
  | .error .inside => false

end Reading

end TokenBinding.Json
