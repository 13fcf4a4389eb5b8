import TokenBinding.Duration.Basic

/-!
# Expiry

Tokens that travel in messages are proofs of what was once so, and their expiry is ignored unless
the caller names a time to check it at. Times are whole seconds in 64 bits. A token is good while
its expiry and the leeway together reach that time; a token without expiry never is.

The sum stops at the largest time instead of wrapping, so that an expiry near the end of time is
never taken for an early one.
-/

namespace TokenBinding

/-- Whether expiry is checked, and at what time. -/
inductive ExpiryPolicy where
  | ignore
  | at (now : UInt64)
  deriving Repr, DecidableEq

namespace ExpiryPolicy

/-- The clock skew that is tolerated unless another is configured. -/
def defaultLeeway : Duration := .ofSeconds 60

/-- The sum of two times, or the largest time if the sum is beyond it. -/
def saturatingAdd (a b : UInt64) : UInt64 :=
  if a.toNat + b.toNat < UInt64.size then a + b else UInt64.ofNat (UInt64.size - 1)

/-- Whether a token with this expiry is good. Of the leeway, whole seconds count. -/
def admits (policy : ExpiryPolicy) (leeway : Duration) (expiry? : Option UInt64) : Bool :=
  match policy, expiry? with
  | ignore, _ => true
  | .at _, none => false
  | .at now, some expiry => now ≤ saturatingAdd expiry leeway.seconds

theorem toNat_saturatingAdd (a b : UInt64) :
    (saturatingAdd a b).toNat = min (a.toNat + b.toNat) (UInt64.size - 1) := by
  unfold saturatingAdd
  split
  · next h =>
    rw [UInt64.toNat_add]
    have : UInt64.size = 2 ^ 64 := rfl
    omega
  · next h =>
    rw [UInt64.toNat_ofNat_of_lt' (by decide)]
    omega

end ExpiryPolicy

end TokenBinding
