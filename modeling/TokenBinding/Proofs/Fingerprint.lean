import TokenBinding.Fingerprint
import TokenBinding.Proofs.Hash.Chain

/-!
# What a fingerprint identifies

The first message of a party is its key followed by its identifier, and nothing in it says where the
one ends. The rounds behind it carry the key at their end, so from two rounds on the digest of a
party gives the key, and with the key the first message gives the identifier. The digests of both
parties have one length, so the fingerprint says which of the two is the producer.

A chain of one message has no such round. Whatever the digest is, two parties whose keys and
identifiers come to the same bytes have one fingerprint then, and no two messages are to blame for
it. So the number of rounds decides alone whether fingerprints separate (`separates_iff`).

The messages of a computation (`computeMessages`) are all that it asks the digest for
(`compute_congr`).

What it does not establish. A fingerprint is over keys and identifiers, so parties with the right
key and another identifier have another fingerprint. Digests are cut in half for it, and collisions
are meant of the halves.

Main statement: `compute_identifies`.
-/

namespace TokenBinding.Fingerprint

variable {H : Digest} {n : Nat}

/-- The messages that are hashed for a party, in order. -/
def partyMessages (H : Digest) (iterations : Nat) (p : PartyIdentity) : List Bytes :=
  H.chainMessages p.publicKey (iterations - 1) (partyMessage p)

/-- The messages that are hashed for a fingerprint, those of the producer first. -/
def computeMessages (H : Digest) (iterations : Nat) (producer recipient : PartyIdentity) :
    List Bytes :=
  partyMessages H iterations producer ++ partyMessages H iterations recipient

/-- Ordered pairs of parties with one fingerprint are one pair, or a message that is hashed for the
one collides with a message that is hashed for the other. -/
def Separates (H : Digest) (iterations : Nat) : Prop :=
  ∀ p r p' r' : PartyIdentity, ∀ f, compute H iterations p r = .ok f →
    compute H iterations p' r' = .ok f → (p = p' ∧ r = r') ∨
      H.CollideAmong (computeMessages H iterations p r) (computeMessages H iterations p' r')

/-! ## When there is a fingerprint -/

/-- With both keys there is a fingerprint: the version and the digests of both parties, that of the
producer first. -/
theorem compute_of_keys {p r : PartyIdentity} (keyP : p.publicKey ≠ []) (keyR : r.publicKey ≠ []) :
    compute H n p r = .ok ⟨UInt8.ofNat version :: partyDigest H n p ++ partyDigest H n r⟩ := by
  have keys : ¬(p.publicKey = [] ∨ r.publicKey = []) := fun h => h.elim keyP keyR
  rw [compute, if_neg keys]

/-- There is no fingerprint exactly if a key is empty, and there is one reason for that. -/
theorem compute_eq_error_iff {p r : PartyIdentity} {e : FingerprintError} :
    compute H n p r = .error e ↔
      (p.publicKey = [] ∨ r.publicKey = []) ∧ e = .invalidIdentity "empty public key" := by
  by_cases lacking : p.publicKey = [] ∨ r.publicKey = []
  · rw [compute, if_pos lacking, Except.error.injEq]
    exact ⟨fun same => ⟨lacking, same.symm⟩, fun h => h.2.symm⟩
  · rw [compute, if_neg lacking]
    simp only [reduceCtorEq, lacking, false_and]

/-- A fingerprint is made of the digests of both parties, and gives them. Both have one length, so
it is known where the first of them ends and no separator is needed. -/
theorem partyDigest_eq_of_compute {p r p' r' : PartyIdentity} {f : Fingerprint}
    (first : compute H n p r = .ok f) (second : compute H n p' r' = .ok f) :
    partyDigest H n p = partyDigest H n p' ∧ partyDigest H n r = partyDigest H n r' := by
  have keys : ∀ {p r : PartyIdentity}, compute H n p r = .ok f →
      f.bytes = UInt8.ofNat version :: partyDigest H n p ++ partyDigest H n r := by
    intro p r computed
    unfold compute at computed
    split at computed
    · cases computed
    · cases computed
      rfl
  have bytes := (keys first).symm.trans (keys second)
  have digests := (List.cons.inj bytes).2
  exact List.append_inj digests (by rw [length_partyDigest, length_partyDigest])

/-- A fingerprint asks the digest for its messages only. -/
theorem compute_congr {H' : Digest} {p r : PartyIdentity}
    (same : ∀ m ∈ computeMessages H n p r, H' m = H m) : compute H' n p r = compute H n p r := by
  have party : ∀ q, partyMessages H n q ⊆ computeMessages H n p r →
      partyDigest H' n q = partyDigest H n q := by
    intro q among
    rw [partyDigest, partyDigest, Digest.chain_congr fun m mem => same m (among mem)]
  rw [compute, compute, party p (List.subset_append_left _ _),
    party r (List.subset_append_right _ _)]

/-! ## From two rounds on -/

/-- Parties with one key have one message only if they are one party. Without that nothing says
where in the message the key ends. -/
theorem partyMessage_inj {p q : PartyIdentity} (keys : p.publicKey = q.publicKey)
    (h : partyMessage p = partyMessage q) : p = q := by
  obtain ⟨stableId, publicKey⟩ := p
  obtain ⟨stableId', publicKey'⟩ := q
  obtain rfl : publicKey = publicKey' := keys
  rw [PartyIdentity.mk.injEq]
  exact ⟨List.append_cancel_left h, rfl⟩

/-- The last round gives the key, and the key tells the first message apart. -/
theorem party_eq_or_collide (two : 2 ≤ n) {p q : PartyIdentity}
    (h : partyDigest H n p = partyDigest H n q) :
    p = q ∨ H.CollideAmong (partyMessages H n p) (partyMessages H n q) := by
  rcases Digest.chain_inj_or_collide h with ⟨first, keys⟩ | collide
  · exact .inl (partyMessage_inj (keys (by omega)) first)
  · exact .inr collide

/-- From two rounds on parties are told apart: the key is hashed again behind a digest of fixed
length, which gives it away. -/
theorem separates_of_two_le (two : 2 ≤ n) : Separates H n := by
  intro p r p' r' f first second
  obtain ⟨producers, recipients⟩ := partyDigest_eq_of_compute first second
  rcases party_eq_or_collide two producers with sameP | collide
  · rcases party_eq_or_collide two recipients with sameR | collide
    · exact .inl ⟨sameP, sameR⟩
    · right
      exact collide.mono (List.subset_append_right _ _) (List.subset_append_right _ _)
  · right
    exact collide.mono (List.subset_append_left _ _) (List.subset_append_left _ _)

/-! ## One round -/

/-- With one round, or none, a single message is hashed, in which the key and the id run into each
other. -/
theorem partyMessages_of_le_one (one : n ≤ 1) (p : PartyIdentity) :
    partyMessages H n p = [Bytes.bigEndian 2 version ++ (p.publicKey ++ p.stableId)] := by
  have rounds : n - 1 = 0 := by omega
  rw [partyMessages, rounds, Digest.chainMessages, partyMessage, List.append_assoc]

theorem partyDigest_of_le_one (one : n ≤ 1) (p : PartyIdentity) :
    partyDigest H n p =
      (H (Bytes.bigEndian 2 version ++ (p.publicKey ++ p.stableId))).take 32 := by
  have rounds : n - 1 = 0 := by omega
  rw [partyDigest, rounds, Digest.chain, partyMessage, List.append_assoc]

/-- Parties that come to the same bytes have one fingerprint. -/
theorem compute_of_le_one (one : n ≤ 1) {p r p' r' : PartyIdentity} (keyP : p.publicKey ≠ [])
    (keyR : r.publicKey ≠ []) (keyP' : p'.publicKey ≠ []) (keyR' : r'.publicKey ≠ [])
    (sameP : p.publicKey ++ p.stableId = p'.publicKey ++ p'.stableId)
    (sameR : r.publicKey ++ r.stableId = r'.publicKey ++ r'.stableId) :
    ∃ f, compute H n p r = .ok f ∧ compute H n p' r' = .ok f := by
  refine ⟨_, compute_of_keys keyP keyR, ?_⟩
  rw [compute_of_keys keyP' keyR', partyDigest_of_le_one one, partyDigest_of_le_one one,
    partyDigest_of_le_one one, partyDigest_of_le_one one, sameP, sameR]

/-- One message is hashed for each of them, and it is the same, so none collides with another. The
two parties differ all the same: one has in its key what the other has in its identifier. -/
theorem not_separates_of_le_one (one : n ≤ 1) : ¬Separates H n := by
  intro separates
  let p : PartyIdentity := ⟨[3], [1, 2]⟩
  let q : PartyIdentity := ⟨[2, 3], [1]⟩
  have message : ∀ m, m ∈ computeMessages H n p p ∨ m ∈ computeMessages H n q q →
      m = Bytes.bigEndian 2 version ++ [1, 2, 3] := by
    intro m mem
    simp only [computeMessages, partyMessages_of_le_one one, List.mem_append, List.mem_singleton,
      or_self] at mem
    exact mem.elim id id
  obtain ⟨f, first, second⟩ : ∃ f, compute H n p p = .ok f ∧ compute H n q q = .ok f :=
    compute_of_le_one one (by decide) (by decide) (by decide) (by decide) rfl rfl
  rcases separates p p q q f first second with ⟨same, -⟩ | ⟨m, mem, m', mem', different, -⟩
  · exact absurd same (by decide)
  · exact different ((message m (.inl mem)).trans (message m' (.inr mem')).symm)

/-! ## What the fingerprint says -/

/-- Two rounds are needed, and enough. -/
theorem separates_iff : Separates H n ↔ 2 ≤ n := by
  refine ⟨fun separates => ?_, separates_of_two_le⟩
  by_cases two : 2 ≤ n
  · exact two
  · exact absurd separates (not_separates_of_le_one (by omega))

/-- Whatever the digest is, fingerprints separate the ordered pairs of parties, up to a collision,
from two rounds on and not below. With one round or none the digest of a party is a function of its
key and identifier written in a row, so parties that come to the same bytes have one fingerprint.
There is no fingerprint if one of the keys is empty, and in no other case. -/
theorem compute_identifies (H : Digest) (n : Nat) :
    (Separates H n ↔ 2 ≤ n) ∧
      (n ≤ 1 → (∃ digest : Bytes → Bytes, ∀ p : PartyIdentity,
          partyDigest H n p = digest (p.publicKey ++ p.stableId)) ∧
        ∀ p r p' r' : PartyIdentity, p.publicKey ≠ [] → r.publicKey ≠ [] → p'.publicKey ≠ [] →
          r'.publicKey ≠ [] → p.publicKey ++ p.stableId = p'.publicKey ++ p'.stableId →
          r.publicKey ++ r.stableId = r'.publicKey ++ r'.stableId →
            ∃ f, compute H n p r = .ok f ∧ compute H n p' r' = .ok f) ∧
      ∀ p r, ((∃ e, compute H n p r = .error e) ↔ p.publicKey = [] ∨ r.publicKey = []) ∧
        ∀ e, compute H n p r = .error e → e = .invalidIdentity "empty public key" := by
  let digest : Bytes → Bytes := fun bs => (H (Bytes.bigEndian 2 version ++ bs)).take 32
  refine ⟨separates_iff, fun one => ⟨⟨digest, partyDigest_of_le_one one⟩, ?_⟩, fun p r => ⟨?_, ?_⟩⟩
  · intro p r p' r' keyP keyR keyP' keyR' sameP sameR
    exact compute_of_le_one one keyP keyR keyP' keyR' sameP sameR
  · constructor
    · rintro ⟨e, failed⟩
      exact (compute_eq_error_iff.mp failed).1
    · intro lacking
      exact ⟨_, compute_eq_error_iff.mpr ⟨lacking, rfl⟩⟩
  · intro e failed
    exact (compute_eq_error_iff.mp failed).2

/-- Two rounds of the digest that is zero of every message give both orders of two parties one
fingerprint, so two of the messages collide. One round of SHA-512 does the same for a party whose
key is cut at another place. -/
theorem compute_identifies_zeros :
    let p : PartyIdentity := ⟨[3], [1, 2]⟩
    let q : PartyIdentity := ⟨[2, 3], [1]⟩
    Digest.zeros.CollideAmong (computeMessages .zeros 2 p q) (computeMessages .zeros 2 q p) ∧
      ∃ f, compute .sha512 1 p p = .ok f ∧ compute .sha512 1 q q = .ok f := by
  intro p q
  constructor
  · obtain ⟨separates, -, -⟩ := compute_identifies .zeros 2
    have both := separates.mpr (Nat.le_refl 2) p q q p ⟨2 :: List.replicate 64 0⟩ rfl rfl
    exact both.resolve_left fun same => absurd same.1 (by decide)
  · obtain ⟨-, one, -⟩ := compute_identifies .sha512 1
    exact (one (Nat.le_refl 1)).2 p p q q (by decide) (by decide) (by decide) (by decide) rfl rfl

end TokenBinding.Fingerprint
