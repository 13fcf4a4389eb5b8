/-!
# TOML values

A value as a configuration file spells it. Tables keep the order in which their keys appeared, and
no key stands twice in one. Numbers that are not whole, and dates and times, are kept as they were
written: no setting is one.
-/

namespace TokenBinding.Toml

inductive Value where
  | text (s : String)
  | integer (n : Int)
  | real (spelling : String)
  | bool (b : Bool)
  | dateTime (spelling : String)
  | array (items : List Value)
  | table (entries : List (String × Value))
  deriving Repr, Inhabited

/-- Whether a character may stand in a comment or a literal: a tab, or no control character. -/
def isTextChar (c : Char) : Bool := c == '\t' || (32 ≤ c.toNat && c.toNat != 127)

/-- A space or a tab, the only characters that are blank within a line. -/
def isBlank (c : Char) : Bool := c == ' ' || c == '\t'

/-- A decimal digit. -/
def isDigit (c : Char) : Bool := '0' ≤ c && c ≤ '9'

end TokenBinding.Toml
