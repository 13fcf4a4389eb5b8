import TokenBinding.Duration.Basic
import TokenBinding.Text.Blank
import TokenBinding.Text.Quoted

/-!
# Duration text

A duration is written as a sum of terms such as `1m 30s`: numbers with units. It is read one
character at a time by a machine (`Reading`) that knows in which part of a term it stands.

* A number begins with a digit. Digits and blanks mix freely in it, and a point begins its fraction.
* A letter begins the unit, which ends at a blank, at the next digit, or with the text.
* 64 bits are the limit of every number, of every number times its unit, and of the sum in seconds.
* A fraction has to come out exactly: in nanoseconds for units up to the minute, in whole seconds
  from the hour on. A nanosecond has no fraction.

Months and years are those of the average: 30.44 and 365.25 days.
-/

namespace TokenBinding.Duration

/-! ## Units -/

inductive TimeUnit where
  | nanosecond
  | microsecond
  | millisecond
  | second
  | minute
  | hour
  | day
  | week
  | month
  | year
  deriving Repr, DecidableEq

namespace TimeUnit

/-- The spellings of each unit. Case counts: `m` is a minute and `M` a month. -/
def spellings : List (TimeUnit × List String) :=
  [(nanosecond, ["ns", "nsec", "nanos"]),
   (microsecond, ["us", "usec", "µs"]),
   (millisecond, ["ms", "msec", "millis"]),
   (second, ["s", "sec", "secs", "second", "seconds"]),
   (minute, ["m", "min", "mins", "minute", "minutes"]),
   (hour, ["h", "hr", "hrs", "hour", "hours"]),
   (day, ["d", "day", "days"]),
   (week, ["w", "wk", "wks", "week", "weeks"]),
   (month, ["M", "month", "months"]),
   (year, ["y", "yr", "yrs", "year", "years"])]

/-- The unit of a spelling. -/
def ofName? (name : String) : Option TimeUnit :=
  (spellings.find? fun entry => entry.2.contains name).map (·.1)

/-- The seconds of a unit; none below the second. -/
def seconds : TimeUnit → Nat
  | second => 1
  | minute => 60
  | hour => 3600
  | day => 86400
  | week => 604800
  | month => 2630016
  | year => 31557600
  | _ => 0

/-- The nanoseconds of a unit below the second. -/
def nanos : TimeUnit → Nat
  | nanosecond => 1
  | microsecond => 1000
  | millisecond => 1000000
  | _ => 0

/-- The seconds and nanoseconds in which a fraction of the unit is counted. -/
def fractionScale? : TimeUnit → Option (Nat × Nat)
  | nanosecond => none
  | second => some (0, 1000000000)
  | minute => some (0, 60000000000)
  | unit => some (unit.seconds, unit.nanos)

end TimeUnit

/-! ## Errors -/

/-- Why a text is no duration. Offsets are in bytes. -/
inductive ReadError where
  | empty
  | numberExpected (offset : Nat)
  | invalidCharacter (offset : Nat)
  | unitNeeded (whole : Nat)
  | unknownUnit (name : String)
  | tooLarge
  deriving Repr, DecidableEq

/-- The wording of a refusal. -/
def ReadError.message : ReadError → String
  | empty => "value was empty"
  | numberExpected offset => "expected number at " ++ toString offset
  | invalidCharacter offset => "invalid character at " ++ toString offset
  | unitNeeded whole =>
    "time unit needed, for example " ++ toString whole ++ "sec or " ++ toString whole ++ "ms"
  | unknownUnit name =>
    "unknown time unit " ++ Text.Quoted.text name ++
      ", supported units: ns, us/µs, ms, sec, min, hours, days, weeks, months, years" ++
      " (and few variations)"
  | tooLarge =>
    "number is too large or cannot be represented without a lack of precision" ++
      " (values below 1ns are not supported)"

/-! ## Terms -/

/-- A number as it was written: the whole part, and a fraction over a power of ten. -/
structure Amount where
  whole : Nat
  numerator : Nat := 0
  denominator : Nat := 1
  deriving Repr, DecidableEq

/-- The first number that does not fit into 64 bits. -/
def wordLimit : Nat := 18446744073709551616

/-- A number if it fits into 64 bits. -/
def word (n : Nat) : Except ReadError Nat := if n < wordLimit then .ok n else .error .tooLarge

/-- A number with one more digit. -/
def appendDigit (n digit : Nat) : Except ReadError Nat := word (10 * n + digit)

/-- Adds seconds and nanoseconds, of which there may be more than a second's. -/
def plus (d : Duration) (seconds nanos : Nat) : Except ReadError Duration := do
  let n ← word (d.nanos + nanos)
  let s := d.seconds.toNat + seconds + n / 1000000000
  if s < wordLimit then
    return { seconds := UInt64.ofNat s, nanos := n % 1000000000,
             nanos_lt := Nat.mod_lt _ (by decide) }
  else .error .tooLarge

/-- A product that has to fit, divided without remainder. -/
def portion (numerator scale denominator : Nat) : Except ReadError Nat := do
  let product ← word (numerator * scale)
  if product % denominator = 0 then return product / denominator else .error .tooLarge

/-- Adds so much of a unit. A number has a fraction if its denominator is more than one. -/
def plusAmount (d : Duration) (a : Amount) (unit : TimeUnit) : Except ReadError Duration := do
  let d ← d.plus (← word (a.whole * unit.seconds)) (← word (a.whole * unit.nanos))
  if a.denominator ≤ 1 then return d
  else
    match unit.fractionScale? with
    | none => .error .tooLarge
    | some (seconds, nanos) =>
      d.plus (← portion a.numerator seconds a.denominator)
        (← portion a.numerator nanos a.denominator)

/-- Adds so much of a unit by its spelling. -/
def plusTerm (d : Duration) (a : Amount) (name : String) : Except ReadError Duration :=
  match TimeUnit.ofName? name with
  | some unit => d.plusAmount a unit
  | none => .error (.unknownUnit name)

/-! ## Reading -/

/-- In which part of a term the reader stands. -/
inductive Place where
  /-- Before a number, since `start`. -/
  | gap (start : Nat)
  | whole (n : Nat)
  /-- Behind the point. All before `good` was in order. -/
  | fraction (a : Amount) (good : Nat)
  | unit (a : Amount) (name : String)
  deriving Repr, DecidableEq

/-- What has been read: the sum of the terms that have ended, if there are any, and the place. -/
structure Reading where
  sum? : Option Duration := none
  offset : Nat := 0
  place : Place := .gap 0
  deriving Repr, DecidableEq

namespace Reading

/-- The value of a digit. -/
def digit? (c : Char) : Option Nat :=
  if '0' ≤ c ∧ c ≤ '9' then some (c.toNat - 48) else none

/-- The letters that units are made of. -/
def isUnitLetter (c : Char) : Bool := c.isAlpha || c == 'µ'

/-- The sum so far. -/
def sum (r : Reading) : Duration := r.sum?.getD (.ofSeconds 0)

/-- Takes one character. -/
def step (r : Reading) (c : Char) : Except ReadError Reading :=
  let next := r.offset + c.utf8Size
  let goOn (place : Place) : Except ReadError Reading :=
    .ok { r with offset := next, place := place }
  match r.place with
  | .gap start =>
    match digit? c with
    | some d => goOn (.whole d)
    | none => if Text.isBlank c then goOn (.gap start) else .error (.numberExpected start)
  | .whole n =>
    match digit? c with
    | some d => do goOn (.whole (← appendDigit n d))
    | none =>
      if Text.isBlank c then goOn (.whole n)
      else if isUnitLetter c then goOn (.unit ⟨n, 0, 1⟩ (String.singleton c))
      else if c = '.' then goOn (.fraction ⟨n, 0, 1⟩ r.offset)
      else .error (.invalidCharacter r.offset)
  | .fraction a good =>
    match digit? c with
    | some d => do
      let denominator ← appendDigit a.denominator 0
      goOn (.fraction ⟨a.whole, 10 * a.numerator + d, denominator⟩ next)
    | none =>
      if Text.isBlank c then goOn (.fraction a next)
      else if isUnitLetter c ∧ 1 < a.denominator then goOn (.unit a (String.singleton c))
      else .error (.invalidCharacter good)
  | .unit a name =>
    if isUnitLetter c then goOn (.unit a (name.push c))
    else
      let close (place : Place) : Except ReadError Reading := do
        return { sum? := some (← r.sum.plusTerm a name), offset := next, place := place }
      match digit? c with
      | some d => close (.whole d)
      | none => if Text.isBlank c then close (.gap next) else .error (.invalidCharacter r.offset)

/-- Ends the text. -/
def finish (r : Reading) : Except ReadError Duration :=
  match r.place with
  | .gap _ =>
    match r.sum? with
    | some d => .ok d
    | none => .error .empty
  | .whole n => .error (.unitNeeded n)
  | .fraction a good =>
    if 1 < a.denominator then .error (.unitNeeded a.whole) else .error (.invalidCharacter good)
  | .unit a name => r.sum.plusTerm a name

end Reading

/-- The duration that a text spells. Zero needs no unit. -/
def ofText (s : String) : Except ReadError Duration :=
  let s := Text.trim s
  if s = "0" then .ok (.ofSeconds 0)
  else do ((← s.toList.foldlM Reading.step {}).finish)

/-! ## Writing -/

/-- A term, where there is something to count. -/
def term (n : Nat) (unit : String) : List String := if n = 0 then [] else [toString n ++ unit]

/-- A term of a unit that is written out, and has a plural. -/
def longTerm (n : Nat) (unit : String) : List String := term n (if 1 < n then unit ++ "s" else unit)

/-- The terms of a duration, the largest unit first. Weeks are counted in days. -/
def terms (d : Duration) : List String :=
  let s := d.seconds.toNat
  let inYear := s % 31557600
  let inMonth := inYear % 2630016
  let inDay := inMonth % 86400
  longTerm (s / 31557600) "year" ++ longTerm (inYear / 2630016) "month" ++
    longTerm (inMonth / 86400) "day" ++ term (inDay / 3600) "h" ++ term (inDay % 3600 / 60) "m" ++
    term (inDay % 60) "s" ++ term (d.nanos / 1000000) "ms" ++ term (d.nanos / 1000 % 1000) "us" ++
    term (d.nanos % 1000) "ns"

/-- A duration as text. -/
def text (d : Duration) : String :=
  match d.terms with
  | [] => "0s"
  | terms => " ".intercalate terms

end TokenBinding.Duration
