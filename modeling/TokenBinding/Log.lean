/-!
# Log records

A pass and a session report what they do as events, each of a type of its own. A record is the form
in which an event is written: a level, a message, which may be empty, and named fields.
-/

namespace TokenBinding.Log

inductive Level where
  | debug
  | info
  | warn
  deriving Repr, DecidableEq

/-- The name of a level. -/
def Level.name : Level → String
  | debug => "DEBUG"
  | info => "INFO"
  | warn => "WARN"

/-- The value of a field. -/
inductive FieldValue where
  | text (s : String)
  | count (n : Nat)
  deriving Repr, DecidableEq

structure Record where
  level : Level
  message : String
  fields : List (String × FieldValue)
  deriving Repr, DecidableEq

end TokenBinding.Log
