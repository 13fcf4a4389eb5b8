import TokenBinding.Authorization.Simulated
import TokenBinding.Proofs.Token.ReadBack
import TokenBinding.Proofs.Verification.Evidence

/-!
# What an issued token says

A token that the simulated client gives out honestly carries seven claims. Read back from the token
they are what was signed, whatever the issuer, the client, the user and the nonce are called
(`readPayload_parts` and the look-ups in `issued`). So the token has a preview, its nonce is found
without verification, and there is evidence for it once it is routed with what its issuer publishes
(`evidence_issued`).

The time of expiry is written as a number and read back into 64 bits; `FitsClock` says that it fits.
-/

namespace TokenBinding.Authorization.Simulated

open Json (Document Value)

/-- The time leaves room for the lifetime of a token. A clock that counts seconds in 63 bits, as
system clocks do, never leaves less. -/
def FitsClock (now : UInt64) : Prop := now.toNat + State.tokenLifetime < UInt64.size

instance (now : UInt64) : Decidable (FitsClock now) :=
  inferInstanceAs (Decidable (now.toNat + State.tokenLifetime < UInt64.size))

/-- The claims of a token that carries a nonce. -/
def claimMembers (e : Entry) (now : UInt64) (clientId nonce : String) : List (String × Value) :=
  [("iss", .text e.issuer.name), ("aud", .text clientId), ("sub", .text ("sub-" ++ e.email)),
    ("email", .text e.email), ("iat", .integer now.toNat),
    ("exp", .integer (now.toNat + State.tokenLifetime : Nat)), ("nonce", .text nonce)]

/-- The token that carries a nonce. -/
def issuedToken (e : Entry) (now : UInt64) (clientId nonce : String) : String :=
  e.issuer.sign (State.claims e now clientId (some nonce))

variable {e : Entry} {now : UInt64} {clientId nonce : String}

/-- No claim stands twice in a token that is issued, a nonce or none. -/
theorem nodup_claimMembers : ((claimMembers e now clientId nonce).map Prod.fst).Nodup := by
  have names : ["iss", "aud", "sub", "email", "iat", "exp", "nonce"].Nodup := by decide
  exact names

/-- The claims of a token are printed as they are: the times in it fit the clock. -/
theorem exact_claimMembers (clock : FitsClock now) :
    (Value.object (claimMembers e now clientId nonce)).Exact := by
  have size : UInt64.size = 18446744073709551616 := rfl
  have time : now.toNat + State.tokenLifetime < UInt64.size := clock
  have issued : Json.Token.IsWide (now.toNat : Int) := by
    unfold Json.Token.IsWide
    omega
  have expiry : Json.Token.IsWide ((now.toNat + State.tokenLifetime : Nat) : Int) := by
    unfold Json.Token.IsWide
    omega
  exact ⟨trivial, trivial, trivial, trivial, issued, expiry, trivial, trivial⟩

theorem issuer_claim : Says (claimMembers e now clientId nonce) "iss" (some e.issuer.name) :=
  .text (by simp [claimMembers])

/-- The claims are such that a reader of tokens can read them. -/
theorem signable_claimMembers (clock : FitsClock now) :
    Signable (claimMembers e now clientId nonce) where
  distinct := nodup_claimMembers
  exact := exact_claimMembers clock
  exp v mem := ⟨(now.toNat + State.tokenLifetime : Nat), by simpa [claimMembers] using mem⟩
  nbf v mem := by simp [claimMembers] at mem
  sub v mem := ⟨"sub-" ++ e.email, by simpa [claimMembers] using mem⟩
  aud v mem := .inl ⟨clientId, by simpa [claimMembers] using mem⟩

/-! ## The payload -/

/-- The payload of the token. -/
abbrev payload (e : Entry) (now : UInt64) (clientId nonce : String) : Document :=
  .ofSorted (claimMembers e now clientId nonce)

/-- A claim is found in the payload as it was signed. -/
theorem node?_payload {name : String} {v : Value}
    (h : (name, v) ∈ claimMembers e now clientId nonce) :
    (payload e now clientId nonce).node? name = some (some v.canonical.node) :=
  Document.node?_ofSorted nodup_claimMembers h

/-- A text among the claims is read back as it was written. -/
theorem textMember?_payload {name s : String}
    (h : (name, Value.text s) ∈ claimMembers e now clientId nonce) :
    (payload e now clientId nonce).textMember? name = some (some s) :=
  Document.textMember?_of_node? (node?_payload h)

theorem issuer_payload :
    (payload e now clientId nonce).textMember? "iss" = some (some e.issuer.name) :=
  textMember?_payload (by simp [claimMembers])

theorem email_payload :
    (payload e now clientId nonce).textMember? Token.identityClaim = some (some e.email) :=
  textMember?_payload (by simp [claimMembers, Token.identityClaim])

theorem nonce_payload :
    (payload e now clientId nonce).textMember? "nonce" = some (some nonce) :=
  textMember?_payload (by simp [claimMembers])

/-- The audience of a token is the client that asked for it. -/
theorem audience_payload : (payload e now clientId nonce).Lists "aud" clientId := by
  left
  exact Document.textMember?_eq_some_some_iff.mp (textMember?_payload (by simp [claimMembers]))

/-- The time of expiry is read back. -/
theorem expiry_payload (clock : FitsClock now) :
    (payload e now clientId nonce).countMember? "exp" =
      some (some (UInt64.ofNat (now.toNat + State.tokenLifetime))) := by
  have found : (payload e now clientId nonce).node? "exp" =
      some (some (Value.integer (now.toNat + State.tokenLifetime : Nat)).canonical.node) :=
    node?_payload (by simp [claimMembers])
  have member : (payload e now clientId nonce).member? "exp" =
      some (some (.integer (now.toNat + State.tokenLifetime : Nat))) := by
    rw [Document.member?, found]
    rfl
  have time : now.toNat + State.tokenLifetime < UInt64.size := clock
  rw [Document.countMember?, member]
  exact if_pos time

/-! ## The token -/

/-- The unverified claims of the token are read from its payload. -/
theorem readUnverified_issued {α : Type} {wanted : Document → Option α} {a : α}
    (clock : FitsClock now) (h : wanted (payload e now clientId nonce) = some a) :
    Token.readUnverified wanted (issuedToken e now clientId nonce) = .ok a :=
  (signable_claimMembers clock).readUnverified_sign issuer_claim e.issuer h

/-- The nonce of the token is found without verification. -/
theorem unverifiedNonce_issued (clock : FitsClock now) :
    Token.unverifiedNonce (issuedToken e now clientId nonce) = .ok (some nonce) :=
  Token.unverifiedNonce_eq_ok_iff.mpr (readUnverified_issued clock nonce_payload)

/-- So is the nonce of any token that the client gives out, and that there is none. This is where
the behaviours of the client meet its tokens: of the claims only the nonce differs between them. -/
theorem unverifiedNonce_claims (clock : FitsClock now) (nonce? : Option String) :
    Token.unverifiedNonce (e.issuer.sign (State.claims e now clientId nonce?)) = .ok nonce? := by
  cases nonce? with
  | some nonce => exact unverifiedNonce_issued clock
  | none =>
    -- The claims are those of a token with a nonce, less the last one.
    let claims := (claimMembers e now clientId "").take 6
    have signable : Signable claims :=
      (signable_claimMembers clock).of_sublist (List.take_sublist _ _)
    have iss : Says claims "iss" (some e.issuer.name) := .text (by simp [claims, claimMembers])
    have nonce : Says claims "nonce" none := .absent (by simp [claims, claimMembers])
    have same : State.claims e now clientId none = .object claims := rfl
    rw [same, Token.unverifiedNonce_eq_ok_iff]
    exact signable.readUnverified_sign iss e.issuer (nonce.textMember? signable.distinct)

/-- The token is routed to the provider of its issuer. -/
theorem ofToken_issued {registry : Registry} {provider : Provider} (clock : FitsClock now)
    (nonBlank : e.email.toList.all Text.isBlank = false)
    (found : registry.byIssuer? e.issuer.name = some provider) :
    Preview.ofToken registry (issuedToken e now clientId nonce) =
      .ok ⟨e.email, e.issuer.name, provider⟩ :=
  Preview.ofToken_eq_ok_iff.mpr ⟨_, _, _, some e.issuer.name, Issuer.split_sign _ _,
    Issuer.readHeader_parts _ _, Issuer.readPayload_parts _ (exact_claimMembers clock),
    (signable_claimMembers clock).registeredClaimsOk issuer_claim, issuer_payload, email_payload,
    nonBlank, rfl, found⟩

/-- What is found on the way to the verdict on the token. -/
def evidence (e : Entry) (now : UInt64) (clientId nonce : String) (n : CompoundNonce) :
    RoutedToken.Evidence where
  parts := e.issuer.parts (claimMembers e now clientId nonce)
  header := ⟨.hs256, some e.issuer.keyId⟩
  payload := payload e now clientId nonce
  key := e.issuer.key
  verifying := .secret e.issuer.secret
  expiry? := some (UInt64.ofNat (now.toNat + State.tokenLifetime))
  claim := nonce
  nonce := n

/-- There is evidence for the token, once it is routed with what its issuer publishes and the time
is left aside. -/
theorem evidence_issued {n : CompoundNonce} {s : RoutedToken.Setting} {index : Nat}
    {displayId identity issuer : String} (clock : FitsClock now)
    (ignored : s.expiry = .ignore)
    (bound : n.hash = stretch s.digest s.fingerprint.bytes s.salt.bytes)
    (spelled : CompoundNonce.parse nonce = .ok n) :
    (evidence e now clientId nonce n).Supports s
      ⟨index, issuedToken e now clientId nonce,
        ⟨identity, issuer, e.issuer.provider displayId clientId⟩, e.issuer.metadata,
        e.issuer.keySet⟩ where
  cut := Issuer.split_sign _ _
  head := Issuer.readHeader_parts _ _
  body := Issuer.readPayload_parts _ (exact_claimMembers clock)
  selected := Issuer.select_keySet _
  family := rfl
  ready := Issuer.verifying_key _
  signature := Token.signedUnder_signedParts _ _ _ _
  issuer := issuer_payload
  discovery := rfl
  audience := audience_payload
  expiry := expiry_payload clock
  time := .inl ignored
  carried := nonce_payload
  spelled := spelled
  bound := bound

end TokenBinding.Authorization.Simulated
