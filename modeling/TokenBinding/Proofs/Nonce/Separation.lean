import TokenBinding.Fingerprint
import TokenBinding.Nonce.Stretch
import TokenBinding.Proofs.Hash.Chain

/-!
# What a stretched hash tells apart

The first message of a chain is a bare concatenation, salt before fingerprint before fingerprint,
and both parts have any length: read on its own it says neither where the salt ends nor which
fingerprint it is. The rounds behind it do: each of them carries the fingerprint at its end, and
once both chains are known to carry one fingerprint, the first message gives the salt.

What it does not establish. No bound is given on how hard a collision is to find. The theorem says
which messages collide, not that they do not.

Main statement: `stretch_inj_or_collide`, for the pair of a fingerprint and a salt.
-/

namespace TokenBinding

/-- The messages that are hashed while a fingerprint is stretched under a salt, in order. -/
def stretchMessages (H : Digest) (fingerprint salt : Bytes) : List Bytes :=
  H.chainMessages fingerprint (stretchRounds - 1) (stretchMessage fingerprint salt)

/-- Under one fingerprint the first message gives the salt. -/
theorem stretchMessage_salt_inj {fingerprint salt₁ salt₂ : Bytes}
    (h : stretchMessage fingerprint salt₁ = stretchMessage fingerprint salt₂) : salt₁ = salt₂ :=
  List.append_cancel_right (List.append_cancel_right h)

/-- A stretched hash belongs to one fingerprint and one salt, or two of the messages collide. -/
theorem stretch_inj_or_collide {H : Digest} {f₁ f₂ s₁ s₂ : Bytes}
    (h : stretch H f₁ s₁ = stretch H f₂ s₂) :
    (f₁ = f₂ ∧ s₁ = s₂) ∨ H.CollideAmong (stretchMessages H f₁ s₁) (stretchMessages H f₂ s₂) := by
  simp only [stretch, FingerprintHash.mk.injEq] at h
  rcases Digest.chain_inj_or_collide h with ⟨first, suffixes⟩ | collide
  · have same : f₁ = f₂ := suffixes (by decide)
    subst same
    exact .inl ⟨rfl, stretchMessage_salt_inj first⟩
  · exact .inr collide

/-- Under the digest that is always zero, everything is stretched to zero. -/
theorem stretch_zeros (fingerprint salt : Bytes) : stretch .zeros fingerprint salt = .zero := by
  simp only [stretch, Digest.chain_zeros]
  rfl

end TokenBinding
