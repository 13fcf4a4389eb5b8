/-!
# Durations

Whole seconds, up to 2⁶⁴ - 1 of them, and the nanoseconds of the next second.
-/

namespace TokenBinding

structure Duration where
  seconds : UInt64
  nanos : Nat
  nanos_lt : nanos < 1000000000 := by decide
  deriving Repr, DecidableEq

namespace Duration

/-- A duration of whole seconds. -/
def ofSeconds (n : UInt64) : Duration := { seconds := n, nanos := 0 }

/-- A duration of milliseconds. -/
def ofMillis (n : UInt64) : Duration where
  seconds := n / 1000
  nanos := n.toNat % 1000 * 1000000
  nanos_lt := by omega

end Duration

end TokenBinding
