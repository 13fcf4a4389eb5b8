import TokenBinding.Proofs.Token.ReadBack
import TokenBinding.Proofs.Verification.Issued

/-!
# Tokens that anybody can make

To be reported on, a token has to name an issuer that is registered and an identity that is not
blank, and nothing else. So whoever signs it, with whatever key, decides what is reported as the
identity that it claims: the report says that it did not verify, and names that identity
(`run_foreign`).
-/

namespace TokenBinding

open Json (Value)

/-- The claims that are needed to be reported on. -/
def identityClaims (issuer identity : String) : List (String × Value) :=
  [("email", .text identity), ("iss", .text issuer)]

variable {issuer identity : String}

/-- An issuer and an identity can be signed: their names differ and both are texts. -/
theorem signable_identityClaims : Signable (identityClaims issuer identity) where
  distinct := show ["email", "iss"].Nodup by decide
  exact := ⟨trivial, trivial, trivial⟩
  exp v mem := by simp [identityClaims] at mem
  nbf v mem := by simp [identityClaims] at mem
  sub v mem := by simp [identityClaims] at mem
  aud v mem := by simp [identityClaims] at mem

/-- A token over these claims is routed to the provider of the issuer that they name. -/
theorem preview_foreign {registry : Registry} {p : Provider} (i : Issuer)
    (visible : ∃ c ∈ identity.toList, Text.isBlank c = false)
    (served : registry.byIssuer? issuer = some p) :
    Preview.ofToken registry (i.sign (.object (identityClaims issuer identity))) =
      .ok ⟨identity, issuer, p⟩ := by
  have iss : Says (identityClaims issuer identity) "iss" (some issuer) :=
    .text (by simp [identityClaims])
  have email : Says (identityClaims issuer identity) "email" (some identity) :=
    .text (by simp [identityClaims])
  obtain ⟨serves, before, after, table, first⟩ := Registry.byIssuer?_eq_some_iff.mp served
  apply (signable_identityClaims.ofToken_sign_iff iss email i).mpr
  exact .provider rfl visible table serves first

namespace Verification.Engine

variable {e : Engine} {b : Binder} {q : Request}

/-- A token that is signed with a key of whoever made it is reported, under the identity that it
claims. -/
theorem run_foreign {i : Issuer} {p : Provider} {metadata : ProviderMetadata} {keys : Token.KeySet}
    {f : Fingerprint} {salt : Salt} (hb : b.Reachable e.digest)
    (visible : ∃ c ∈ identity.toList, Text.isBlank c = false)
    (served : e.registry.byIssuer? issuer = some p)
    (document : e.resolver.document 0 p.discoveryUrl = .ok metadata)
    (published : e.resolver.keys 0 metadata.jwksUri = .ok keys)
    (foreign : keys.select (some i.keyId) = none)
    (print : e.localFingerprint q.peer q.role = .ok f)
    (wire : q.wire =
      Bundle.toWire ⟨salt, [i.sign (.object (identityClaims issuer identity))]⟩) :
    (e.run b q).result = .ok ⟨[⟨identity, p, false, some .keyNotFound⟩], 0⟩ := by
  let token := i.sign (.object (identityClaims issuer identity))
  have parsed : Bundle.parse q.wire = .ok ⟨salt, [token]⟩ := by
    rw [wire]
    exact Bundle.parse_toWire (List.forall_mem_singleton.mpr (i.carried_sign _))
  let r : RoutedToken := ⟨0, token, ⟨identity, issuer, p⟩, metadata, keys⟩
  have routed : e.routedTokens [token] = [r] := by
    have resolved : route e.registry e.resolver 0 token = .resolved r := by
      simp only [route, token, preview_foreign i visible served, document, published, r]
    simp only [routedTokens, routeAll, List.mapIdx_cons, List.mapIdx_nil, List.filterMap_cons,
      List.filterMap_nil, resolved, Route.resolved?]
  have refused (s : RoutedToken.Setting) : r.verdict s = .error .keyNotFound :=
    verdict_of_foreignKeys rfl foreign
  rw [run_result_of_localFingerprint hb parsed (List.cons_ne_nil _ _) print]
  simp only [verdicts, routed, List.map_cons, List.map_nil, refused]
  rfl

end Verification.Engine

end TokenBinding
