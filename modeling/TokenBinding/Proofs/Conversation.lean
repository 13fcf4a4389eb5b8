import TokenBinding.Proofs.Verification.Issued

/-!
# A conversation from end to end

Two parties hold each other's key material, and the members of a family issue the tokens. Then what
the producer's session makes with an honest client verifies on both sides: the recipient checks it
as one who received it, the producer as one who sent it, and both compute the fingerprint over one
ordered pair.

Nothing is asked of the names, secrets and nonces that go into the tokens, nor of the digest, nor of
the order in which the two sides look for required claims. The clock of the client has to leave room
for the lifetime of a token, and verification is without regard to the time.

What it does not establish. A client that withholds a token, or echoes another nonce, is not honest
in this sense, and of a bundle that is changed on its way nothing is said here.

Main statement: `produce_verifies_on_both_sides`.
-/

namespace TokenBinding

open Authorization.Simulated
open Session (honestTokens pendings)

/-- Two parties who know each other, and the family that issues the tokens. -/
structure Conversation where
  digest : Digest
  iterations : Nat
  producer : PartyIdentity
  recipient : PartyIdentity
  /-- The identities as the producer has them. -/
  producerView : IdentitySource
  /-- The identities as the recipient has them. -/
  recipientView : IdentitySource
  /-- The producer's name for the recipient. -/
  recipientRef : PeerRef
  /-- The recipient's name for the producer. -/
  producerRef : PeerRef
  members : List Registration
  producerKey : producer.publicKey ≠ []
  recipientKey : recipient.publicKey ≠ []
  recipientKnown : producerView.pair recipientRef = .ok (producer, recipient)
  producerKnown : recipientView.pair producerRef = .ok (recipient, producer)
  family : Family members

namespace Conversation

/-- The fingerprint of the conversation. -/
def fingerprint (v : Conversation) : Fingerprint where
  bytes :=
    UInt8.ofNat Fingerprint.version ::
      Fingerprint.partyDigest v.digest v.iterations v.producer ++
        Fingerprint.partyDigest v.digest v.iterations v.recipient

/-- What a call of the producer works with. -/
def surroundings (v : Conversation) (trueNonce : Nat → TrueNonce) (state : Nat → String) :
    Session.Surroundings where
  digest := v.digest
  identities := v.producerView
  fingerprints := Fingerprint.compute v.digest v.iterations
  trueNonce := trueNonce
  state := state

/-- An engine of one of the parties. -/
def engine (v : Conversation) (view : IdentitySource) (publicKeyCheck : Token.PublicKeyCheck)
    (leeway : Duration) (firstSought : Nat → RequiredClaim := fun _ => .audience) :
    Verification.Engine where
  digest := v.digest
  publicKeyCheck := publicKeyCheck
  identities := view
  fingerprints := Fingerprint.compute v.digest v.iterations
  resolver := resolverOf v.members
  registry := registryOf v.members
  leeway := leeway
  firstSought := firstSought

/-- The session is one that the producer has with the recipient, new or with calls behind it. -/
structure Hosts (v : Conversation) (s : Session) : Prop where
  peer : s.peer = v.recipientRef
  registry : s.registry = registryOf v.members
  binder : s.binder.Reachable v.digest
  cell : ∀ f, s.cell.value? = some f → f = v.fingerprint

variable {v : Conversation} {s : Session} {first : Nat → RequiredClaim}

theorem compute_parties (v : Conversation) :
    Fingerprint.compute v.digest v.iterations v.producer v.recipient = .ok v.fingerprint := by
  have keys : ¬(v.producer.publicKey = [] ∨ v.recipient.publicKey = []) := by
    rintro (absent | absent)
    · exact v.producerKey absent
    · exact v.recipientKey absent
  rw [Fingerprint.compute, if_neg keys]
  rfl

/-- The session can go on with the fingerprint of the conversation. -/
theorem Hosts.ready (hosts : v.Hosts s) (trueNonce : Nat → TrueNonce) (state : Nat → String) :
    s.Ready (v.surroundings trueNonce state) v.fingerprint where
  binder := hosts.binder
  fingerprint := by
    unfold Session.fingerprint
    cases held : s.cell.value? with
    | some f =>
      rw [hosts.cell f held]
    | none =>
      have pair : (v.surroundings trueNonce state).identities.pair s.peer =
          .ok (v.producer, v.recipient) := by
        rw [hosts.peer]
        exact v.recipientKnown
      have computed : (v.surroundings trueNonce state).fingerprints v.producer v.recipient =
          .ok v.fingerprint := v.compute_parties
      simp only [pair, Role.order, computed, FingerprintCell.getOrCompute, held]

/-- The recipient finds the fingerprint of the conversation. -/
theorem localFingerprint_recipient (v : Conversation) (publicKeyCheck : Token.PublicKeyCheck)
    (leeway : Duration) (first : Nat → RequiredClaim := fun _ => .audience) :
    (v.engine v.recipientView publicKeyCheck leeway first).localFingerprint v.producerRef
      .verifier = .ok v.fingerprint := by
  simp only [Verification.Engine.localFingerprint, engine, v.producerKnown, Role.order,
    v.compute_parties]

/-- The producer finds it too. -/
theorem localFingerprint_producer (v : Conversation) (publicKeyCheck : Token.PublicKeyCheck)
    (leeway : Duration) (first : Nat → RequiredClaim := fun _ => .audience) :
    (v.engine v.producerView publicKeyCheck leeway first).localFingerprint v.recipientRef
      .producer = .ok v.fingerprint := by
  simp only [Verification.Engine.localFingerprint, engine, v.recipientKnown, Role.order,
    v.compute_parties]

/-- Either side of a conversation knows its members. -/
theorem engine_knows (v : Conversation) (view : IdentitySource)
    (publicKeyCheck : Token.PublicKeyCheck) (leeway : Duration) :
    (v.engine view publicKeyCheck leeway first).Knows v.members := ⟨rfl, rfl⟩

/-- What an honest client gives to the producer verifies on both sides. The session gets one token
for each selected member, in the order of the selection; of the text of the bundle, the recipient
and the producer each report all tokens in that order as verified, with the registered users and
providers, and none is left unevaluated. -/
theorem produce_verifies_on_both_sides (v : Conversation) {s : Session} (hosts : v.Hosts s)
    {now : UInt64} (clock : FitsClock now) {c : State} (serves : Serves v.members c)
    (trueNonce : Nat → TrueNonce) (state : Nat → String) (draws : Draws) (ids : List String)
    {b₁ b₂ : Binder} (reach₁ : b₁.Reachable v.digest) (reach₂ : b₂.Reachable v.digest)
    (check₁ check₂ : Token.PublicKeyCheck) (leeway₁ leeway₂ : Duration)
    (first₁ first₂ : Nat → RequiredClaim) :
    ∃ tokens,
      (Session.produce (v.surroundings trueNonce state) (client draws now) ids s c).ending =
        some (.ok ⟨s.salt, tokens⟩) ∧
      s.registry.select ids = (selected v.members ids).map Registration.provider ∧
      tokens.map (Preview.ofToken s.registry) =
        (selected v.members ids).map (fun r => .ok ⟨r.email, r.issuer.name, r.provider⟩) ∧
      ((v.engine v.recipientView check₁ leeway₁ first₁).run b₁
        ⟨Bundle.toWire ⟨s.salt, tokens⟩, v.producerRef, .verifier, .ignore⟩).result =
          .ok ⟨(selected v.members ids).map Registration.outcome, 0⟩ ∧
      ((v.engine v.producerView check₂ leeway₂ first₂).run b₂
        ⟨Bundle.toWire ⟨s.salt, tokens⟩, v.recipientRef, .producer, .ignore⟩).result =
          .ok ⟨(selected v.members ids).map Registration.outcome, 0⟩ := by
  let env := v.surroundings trueNonce state
  let nonces := pendings env v.fingerprint s.salt s.drawn (selected v.members ids).length
  have ready : s.Ready env v.fingerprint := hosts.ready trueNonce state
  have among : ∀ r ∈ selected v.members ids, r ∈ v.members := fun _ => mem_of_mem_selected
  have paired : nonces.length = (selected v.members ids).length :=
    Session.length_pendings env v.fingerprint s.salt s.drawn (selected v.members ids).length
  have bound : ∀ n ∈ nonces, n.hash = stretch v.digest v.fingerprint.bytes s.salt.bytes := by
    intro n mem
    have carried := Session.hash_of_mem_pendings mem
    exact carried
  refine ⟨honestTokens now (selected v.members ids) nonces, ?_, ?_, ?_, ?_, ?_⟩
  · exact Session.produce_honest draws clock ready serves hosts.registry ids
  · rw [hosts.registry, select_registryOf]
  · rw [hosts.registry]
    exact Verification.preview_honestTokens v.family clock among paired
  · exact Verification.Engine.run_honestTokens (v.engine_knows _ _ _) v.family clock reach₁ among
      rfl rfl (v.localFingerprint_recipient check₁ leeway₁ first₁) bound paired
  · exact Verification.Engine.run_honestTokens (v.engine_knows _ _ _) v.family clock reach₂ among
      rfl rfl (v.localFingerprint_producer check₂ leeway₂ first₂) bound paired

/-- The two issuers of the conversation between Alice and Bob. -/
def alphaAndBeta : List Registration :=
  [⟨"Alpha", "idbind-client", "alice@example.com", ⟨"https://alpha.example.com", "alpha-1",
    Bytes.ofText "alpha-provider-signing-key-000000"⟩⟩,
   ⟨"Beta", "idbind-client", "alice@example.com", ⟨"https://beta.example.com/tenant/v2.0", "beta-1",
    Bytes.ofText "beta-provider-signing-key-0000000"⟩⟩]

/-- A conversation in which Alice proves her identity to Bob. -/
def aliceToBob (H : Digest) : Conversation where
  digest := H
  iterations := 16
  producer := ⟨Bytes.ofText "alice-aci", List.replicate 33 5⟩
  recipient := ⟨Bytes.ofText "bob-aci", List.replicate 33 6⟩
  producerView := IdentityTable.source
    { self? := some ⟨Bytes.ofText "alice-aci", List.replicate 33 5⟩
      peers := [(⟨"bob"⟩, ⟨Bytes.ofText "bob-aci", List.replicate 33 6⟩)] }
  recipientView := IdentityTable.source
    { self? := some ⟨Bytes.ofText "bob-aci", List.replicate 33 6⟩
      peers := [(⟨"alice"⟩, ⟨Bytes.ofText "alice-aci", List.replicate 33 5⟩)] }
  recipientRef := ⟨"bob"⟩
  producerRef := ⟨"alice"⟩
  members := alphaAndBeta
  producerKey := nofun
  recipientKey := nofun
  recipientKnown := rfl
  producerKnown := rfl
  family := ⟨by decide, by decide, by decide⟩

/-- Alice selects both issuers and one that is not known; both of her tokens verify. -/
theorem produce_verifies_on_both_sides_aliceToBob :
    let v := aliceToBob .sha512
    let s : Session := ⟨⟨"bob"⟩, registryOf alphaAndBeta, ⟨List.replicate 32 9⟩, {}, {}, 0⟩
    let trueNonce (i : Nat) : TrueNonce := ⟨Bytes.bigEndian 32 i, Bytes.length_bigEndian 32 i⟩
    let draws : Draws := ⟨fun i => toString i, trueNonce⟩
    let leeway : Duration := .ofSeconds 60
    let verified : List Outcome := alphaAndBeta.reverse.map Registration.outcome
    ∃ tokens, tokens.length = 2 ∧
      (Session.produce (v.surroundings trueNonce fun _ => "state") (client draws 1700000000)
        ["Beta", "Gamma", "Alpha"] s (.ofRegistrations alphaAndBeta)).ending =
          some (.ok ⟨s.salt, tokens⟩) ∧
      ((v.engine v.recipientView .none leeway fun _ => .issuer).run {}
        ⟨Bundle.toWire ⟨s.salt, tokens⟩, ⟨"alice"⟩, .verifier, .ignore⟩).result =
          .ok ⟨verified, 0⟩ ∧
      ((v.engine v.producerView .none leeway).run {}
        ⟨Bundle.toWire ⟨s.salt, tokens⟩, ⟨"bob"⟩, .producer, .ignore⟩).result =
          .ok ⟨verified, 0⟩ := by
  intro v s trueNonce draws leeway verified
  have hosts : v.Hosts s := ⟨rfl, rfl, .empty, nofun⟩
  have clock : FitsClock 1700000000 := by decide
  have known : selected v.members ["Beta", "Gamma", "Alpha"] = alphaAndBeta.reverse := by decide
  obtain ⟨tokens, produced, -, previews, received, sent⟩ :=
    produce_verifies_on_both_sides v hosts clock (serves_ofRegistrations v.family) trueNonce
      (fun _ => "state") draws ["Beta", "Gamma", "Alpha"] .empty .empty .none .none leeway leeway
      (fun _ => .issuer) (fun _ => .audience)
  rw [known] at previews received sent
  have count := congrArg List.length previews
  rw [List.length_map, List.length_map] at count
  exact ⟨tokens, count, produced, received, sent⟩

end Conversation

end TokenBinding
