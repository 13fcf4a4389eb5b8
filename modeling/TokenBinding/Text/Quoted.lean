import TokenBinding.Text.Printed

/-!
# Quoted text

Messages show a text, or a single character, between quotation marks. The mark itself, the
backslash, line ends, tabs and the null character are written as two characters; all else without a
printed form is written as its number. What has a printed form stands for itself, so a quoted text
is always on one line.
-/

namespace TokenBinding.Text.Quoted

/-- The lower-case hexadecimal digits of a number, no zeros in front. -/
def hexDigits (n : Nat) : String := String.ofList (Nat.toDigits 16 n)

/-- A character by its number. -/
def byNumber (c : Char) : String := "\\u\x7b" ++ hexDigits c.toNat ++ "\x7d"

/-- A character as it stands between two quotation marks of the given kind. -/
def escape (mark c : Char) : String :=
  if c = mark ∨ c = '\\' then String.ofList ['\\', c]
  else if c = '\n' then "\\n"
  else if c = '\r' then "\\r"
  else if c = '\t' then "\\t"
  else if c = Char.ofNat 0 then "\\0"
  else if isPrinted c then String.singleton c
  else byNumber c

/-- A text between double quotation marks. -/
def text (s : String) : String :=
  "\"" ++ s.toList.foldl (fun out c => out ++ escape '"' c) "" ++ "\""

/-- A character between single quotation marks. -/
def character (c : Char) : String := "'" ++ escape '\'' c ++ "'"

end TokenBinding.Text.Quoted
