import TokenBinding.Metadata.Basic
import TokenBinding.Nonce.Binder
import TokenBinding.Preview
import TokenBinding.Verification.Expiry
import TokenBinding.Verification.Report

/-!
# The check of one token

A token is checked in stages, and the first stage that fails gives the failure.

1. `authenticate`: the header is read, a key is selected from the provider's set, and the signature
   is checked under it.
2. `readPayload`: the claims are read.
3. `checkParties`: issuer and audience are those of the provider. Both must be present before either
   is compared. The two are kept as a set, and a set has no order: of a token that has neither, the
   one that the check happens to look for first is reported. Every check has a set of its own, so
   two checks of one token may differ in this, and it is up to the surroundings
   (`Setting.firstSought`).
4. The expiry policy admits the token.
5. The nonce is bound to the fingerprint of this side, under the salt of the bundle.

So nothing that a token says has any effect before its signature has been checked, and the key never
comes from the token itself.
-/

namespace TokenBinding

/-- A claim that must be there before its value is compared. -/
inductive RequiredClaim where
  | issuer
  | audience
  deriving Repr, DecidableEq

/-- The failure of a token that does not have the claim. -/
def RequiredClaim.failure : RequiredClaim → VerificationFailure
  | issuer => .issuer
  | audience => .audience

/-- A token with the metadata and the keys of the provider that it was routed to. -/
structure RoutedToken where
  /-- The token's place in the bundle. -/
  index : Nat
  token : String
  preview : Preview
  metadata : ProviderMetadata
  keys : Token.KeySet
  deriving Repr, DecidableEq

namespace RoutedToken

open Token (Compact)

/-- Checks the signature of a token under the key that its header names. -/
def authenticate (publicKeyCheck : Token.PublicKeyCheck) (token : String) (keys : Token.KeySet) :
    Except VerificationFailure Compact :=
  match Compact.split token with
  | .error e => .error (.signature (.header e))
  | .ok parts =>
    match parts.readHeader with
    | .error e => .error (.signature (.header e))
    | .ok header =>
      match keys.select header.keyId? with
      | none => .error .keyNotFound
      | some key =>
        match key.material.verifying with
        | .error e => .error (.signature (.key e))
        | .ok verifying =>
          match Token.checkSignature publicKeyCheck header.algorithm verifying parts with
          | .error e => .error (.signature (.check e))
          | .ok () => .ok parts

/-- Reads the payload of a token, and the claims that tie it to a time and a fingerprint. -/
def readPayload (parts : Compact) :
    Except VerificationFailure (Json.Document × Token.BoundClaims) :=
  match parts.readPayload with
  | .error (.base64 e) => .error (.signature (.payload e))
  | .error _ => .error .malformedClaims
  | .ok d =>
    match Token.readClaims Token.BoundClaims.ofDocument? d with
    | .error _ => .error .malformedClaims
    | .ok claims => .ok (d, claims)

/-- Checks issuer and audience. Where neither is there, the one that is looked for first is
reported. -/
def checkParties (first : RequiredClaim) (d : Json.Document) (issuer clientId : String) :
    Except VerificationFailure Unit :=
  match Token.registeredTexts? d "aud", Token.registeredTexts? d "iss" with
  | none, none => .error first.failure
  | none, some _ => .error .audience
  | some _, none => .error .issuer
  | some audiences, some issuers =>
    if issuer ∉ issuers then .error .issuer
    else if clientId ∉ audiences then .error .audience
    else .ok ()

/-- The claims of a token whose signature and parties are in order. -/
def trustedClaims (publicKeyCheck : Token.PublicKeyCheck) (first : RequiredClaim)
    (r : RoutedToken) : Except VerificationFailure Token.BoundClaims :=
  match authenticate publicKeyCheck r.token r.keys with
  | .error e => .error e
  | .ok parts =>
    match readPayload parts with
    | .error e => .error e
    | .ok (d, claims) =>
      match checkParties first d r.metadata.issuer r.preview.provider.clientId with
      | .error e => .error e
      | .ok () => .ok claims

/-- What the checks of one bundle have in common. -/
structure Setting where
  digest : Digest
  publicKeyCheck : Token.PublicKeyCheck
  fingerprint : Fingerprint
  salt : Salt
  expiry : ExpiryPolicy
  leeway : Duration
  /-- Which required claim the check of the token at a place looks for first. -/
  firstSought : (place : Nat) → RequiredClaim

/-- Checks a token. The hash of fingerprint and salt is kept in the binder. -/
def check (s : Setting) (binder : Binder) (r : RoutedToken) :
    Except VerificationFailure Unit × Binder :=
  match trustedClaims s.publicKeyCheck (s.firstSought r.index) r with
  | .error e => (.error e, binder)
  | .ok claims =>
    if !s.expiry.admits s.leeway claims.expiry? then (.error .expired, binder)
    else
      match binder.check s.digest claims.nonce? s.fingerprint s.salt with
      | (.ok (), binder) => (.ok (), binder)
      | (.error e, binder) => (.error (.ofNonceError e), binder)

/-- The outcome of a token. -/
def outcome (r : RoutedToken) (result : Except VerificationFailure Unit) : Outcome where
  claimedIdentity := r.preview.claimedIdentity
  provider := r.preview.provider
  verified := result.isOk
  failure? :=
    match result with
    | .ok () => none
    | .error e => some e

end RoutedToken

end TokenBinding
