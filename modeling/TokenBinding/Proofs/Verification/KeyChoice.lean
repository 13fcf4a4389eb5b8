import TokenBinding.Proofs.Token.Parts
import TokenBinding.Proofs.Verification.Stages

/-!
# Which key a token is checked with

The key comes from the fetched set, and of the token it is only the key id of the header that has a
part in the choice. A header that names an id chooses the first key of that id, wherever it stands
and whatever else is in the set; a header that names none chooses the key of a set of one.
`KeySet.Chosen` says so without a search. An issuer can therefore put new keys beside an old one, or
behind it, and take others away, and nothing changes for the tokens of the old key.

The algorithm comes from the token, so a token could ask for one that its key is not made for. The
family of the key decides: a token of another family is never verified, whatever stands in the place
of its signature. A text with points in it moves the parts of the token, but then there is a point
in the header and it cannot be read (`split_of_readHeader`).

What it does not establish. A provider that publishes two keys under one id has the second of them
passed over, and a key that was taken from a provider stays good as long as it is published.

Main statement: `check_key_choice`.
-/

namespace TokenBinding

namespace Token

namespace KeySet

/-- The key of the set that a key id, or its absence, stands for. -/
inductive Chosen : List Key → Option String → Key → Prop
  | named {id : String} {before after : List Key} {key : Key} (own : key.id? = some id)
      (first : ∀ k ∈ before, k.id? ≠ some id) : Chosen (before ++ key :: after) (some id) key
  | only {key : Key} : Chosen [key] none key

variable {keys keys' : KeySet} {id? : Option String} {id : String} {key : Key}

/-- The key that a header selects is the chosen one: with a key id the first that has it, and
without one the only key there is. -/
theorem select_eq_some_iff : keys.select id? = some key ↔ Chosen keys.keys id? key := by
  obtain ⟨keys⟩ := keys
  constructor
  · intro h
    cases id? with
    | some id =>
      obtain ⟨own, before, after, rfl, first⟩ := List.find?_eq_some_iff_append.mp h
      refine .named (beq_iff_eq.mp own) ?_
      intro k mem
      simpa using first k mem
    | none =>
      unfold select at h
      dsimp only at h
      split at h
      · cases h
        exact .only
      · cases h
  · intro h
    cases h with
    | named own first =>
      refine List.find?_eq_some_iff_append.mpr ⟨beq_iff_eq.mpr own, _, _, rfl, ?_⟩
      intro k mem
      simpa using first k mem
    | only => rfl

theorem select_eq_none_iff : keys.select id? = none ↔ ∀ key, ¬Chosen keys.keys id? key := by
  simp only [← select_eq_some_iff, Option.eq_none_iff_forall_ne_some, ne_eq]

/-- Sets in which the same key is chosen, if any, are as good as each other. -/
theorem select_congr (same : ∀ key, Chosen keys.keys id? key ↔ Chosen keys'.keys id? key) :
    keys'.select id? = keys.select id? := by
  apply Option.ext
  intro key
  rw [select_eq_some_iff, select_eq_some_iff, same]

/-- Of an id there is no key to choose if none has it. -/
theorem not_chosen_of_foreign (foreign : ∀ k ∈ keys.keys, k.id? ≠ some id) (key : Key) :
    ¬Chosen keys.keys (some id) key := by
  rw [← select_eq_some_iff]
  intro selected
  have own := List.find?_some selected
  exact foreign key (List.mem_of_find?_eq_some selected) (beq_iff_eq.mp own)

/-- A key is found among those of its id, so the others play no part. -/
theorem select_of_filter
    (same : keys'.keys.filter (·.id? == some id) = keys.keys.filter (·.id? == some id)) :
    keys'.select (some id) = keys.select (some id) := by
  simp only [select, ← List.head?_filter, same]

/-- Nor do those that stand behind one of that id. -/
theorem select_append (mem : key ∈ keys.keys) (own : key.id? = some id) (later : List Key) :
    select ⟨keys.keys ++ later⟩ (some id) = keys.select (some id) := by
  have found : (keys.keys.find? (·.id? == some id)).isSome :=
    List.find?_isSome.mpr ⟨key, mem, beq_iff_eq.mpr own⟩
  simp only [select, List.find?_append, Option.or_of_isSome found]

end KeySet

/-- A key that is ready for shared secrets is one. -/
theorem KeyMaterial.eq_octets_of_family {m : KeyMaterial} (h : m.family = .hmac) :
    ∃ k, m = .octets k := by
  cases m with
  | octets k => exact ⟨k, rfl⟩
  | rsa _ _ => cases h
  | ellipticCurve _ _ _ => cases h
  | octetPair _ _ => cases h

/-- A token whose header can be read, and could be read before its signature was replaced, still has
its old parts. -/
theorem Compact.split_of_readHeader {parts parts' : Compact} {header header' : Header}
    {signature : List Char} (head : parts.readHeader = .ok header)
    (payload : separator ∉ parts.payload)
    (cut : split ({ parts with signature := signature } : Compact).text = .ok parts')
    (head' : parts'.readHeader = .ok header') : parts' = { parts with signature := signature } := by
  have solid : ∀ {c : Compact} {h : Header}, c.readHeader = .ok h → c.header.count separator = 0 :=
    fun read => List.count_eq_zero.mpr fun mem => (plain_of_readPart read _ mem).2 (by decide)
  obtain ⟨same, payload', signature'⟩ := split_eq_ok_iff.mp cut
  -- Both texts have as many points, and those of the one are all in front of its signature.
  have points := congrArg (fun text => text.toList.count separator) same
  simp only [text, String.toList_ofList, List.count_append, List.count_cons_self, solid head,
    solid head', List.count_eq_zero.mpr payload, List.count_eq_zero.mpr payload',
    List.count_eq_zero.mpr signature'] at points
  have free : separator ∉ signature := by
    rw [← List.count_eq_zero]
    omega
  have own : split ({ parts with signature := signature } : Compact).text =
      .ok { parts with signature := signature } := split_eq_ok_iff.mpr ⟨rfl, payload, free⟩
  exact Except.ok.inj (cut.symm.trans own)

end Token

namespace RoutedToken

open Authorization.Simulated
open Token (Compact KeySet)

variable {s : Setting} {b : Binder} {r : RoutedToken} {keys keys' : KeySet} {parts : Compact}
  {header : Token.Header} {key : Token.Key}

/-- Sets that select the same key for a token are as good as each other. -/
theorem check_congr (cut : Compact.split r.token = .ok parts) (head : parts.readHeader = .ok header)
    (same : keys'.select header.keyId? = keys.select header.keyId?) :
    check s b { r with keys := keys' } = check s b { r with keys := keys } := by
  have signed : authenticate s.publicKeyCheck r.token keys' =
      authenticate s.publicKeyCheck r.token keys := by
    simp only [authenticate, cut, head, same]
  simp only [check, trustedClaims, signed]

/-- Only for want of a key is a key not found. -/
theorem authenticate_eq_keyNotFound_iff {publicKeyCheck : Token.PublicKeyCheck} {token : String}
    (cut : Compact.split token = .ok parts) (head : parts.readHeader = .ok header) :
    authenticate publicKeyCheck token keys = .error .keyNotFound ↔
      keys.select header.keyId? = none := by
  constructor
  · intro h
    simp only [authenticate, cut, head] at h
    split at h
    · assumption
    · repeat' split at h
      all_goals cases h
  · intro absent
    simp only [authenticate, cut, head, absent]

/-- No stage behind the first gives up for want of a key. -/
theorem check_eq_keyNotFound_iff :
    (check s b r).1 = .error .keyNotFound ↔
      authenticate s.publicKeyCheck r.token r.keys = .error .keyNotFound := by
  have early : ¬VerificationFailure.keyNotFound.BehindParties := nofun
  rw [check_eq_error_iff early, trustedClaims_eq_error_iff]
  constructor
  · rintro (unsigned | ⟨parts, -, unread | ⟨d, claims, -, foreign⟩⟩)
    · exact unsigned
    · rcases eq_of_readPayload_eq_error unread with h | ⟨_, h⟩ <;> cases h
    · rcases eq_of_checkParties_eq_error foreign with h | h <;> cases h
  · exact .inl

/-- A token that verifies is signed. -/
theorem signed_of_check (h : (check s b r).1 = .ok ()) :
    ∃ parts, r.Signed s.publicKeyCheck parts := by
  unfold check at h
  split at h
  · cases h
  · next claims trusted =>
    obtain ⟨parts, signed, -⟩ := signed_of_trustedClaims trusted
    exact ⟨parts, signed⟩

/-- A token of another family than its key does not verify, whatever its signature is. -/
theorem check_ne_ok_of_family (cut : Compact.split r.token = .ok parts)
    (head : parts.readHeader = .ok header) (selected : keys.select header.keyId? = some key)
    (family : key.material.family ≠ header.algorithm.family) (signature : List Char) :
    (check s b { r with
      token := ({ parts with signature := signature } : Compact).text, keys := keys }).1 ≠
        .ok () := by
  intro verified
  obtain ⟨parts', cut', header', key', _, head', selected', family', -⟩ := signed_of_check verified
  have payload := (Token.Compact.split_eq_ok_iff.mp cut).2.1
  obtain rfl := Token.Compact.split_of_readHeader head payload cut' head'
  obtain rfl : header = header' := Except.ok.inj (head.symm.trans head')
  obtain rfl : key = key' := Option.some.inj (selected.symm.trans selected')
  exact family family'

/-- What the choice of the key comes to for a token, over all sets of keys. -/
structure KeyChoice (s : Setting) (b : Binder) (r : RoutedToken) (parts : Compact)
    (header : Token.Header) : Prop where
  /-- The key is not found exactly if there is none to choose. -/
  notFound : ∀ keys : KeySet, (check s b { r with keys := keys }).1 = .error .keyNotFound ↔
    ∀ key, ¬KeySet.Chosen keys.keys header.keyId? key
  /-- A set matters only by the key that is chosen. -/
  chosenOnly : ∀ keys keys' : KeySet,
    (∀ key, KeySet.Chosen keys.keys header.keyId? key ↔
      KeySet.Chosen keys'.keys header.keyId? key) →
    check s b { r with keys := keys' } = check s b { r with keys := keys }
  /-- For a header that names an id there is no key in a set that has none of that id, also if it is
  a set of one. -/
  missing : ∀ id, header.keyId? = some id → ∀ keys : KeySet, (∀ k ∈ keys.keys, k.id? ≠ some id) →
    (check s b { r with keys := keys }).1 = .error .keyNotFound
  /-- Keys of other ids, or of none, may come, go and change places. -/
  others : ∀ id, header.keyId? = some id → ∀ keys keys' : KeySet,
    keys'.keys.filter (·.id? == some id) = keys.keys.filter (·.id? == some id) →
    check s b { r with keys := keys' } = check s b { r with keys := keys }
  /-- Behind a key of that id, any keys may come. -/
  later : ∀ id, header.keyId? = some id → ∀ (keys : KeySet) (key : Token.Key), key ∈ keys.keys →
    key.id? = some id → ∀ later : List Token.Key,
      check s b { r with keys := ⟨keys.keys ++ later⟩ } = check s b { r with keys := keys }
  /-- For a header that names no id there is no key in a set of none or of several. -/
  unnamed : header.keyId? = none → ∀ keys : KeySet, keys.keys.length ≠ 1 →
    (check s b { r with keys := keys }).1 = .error .keyNotFound
  /-- The chosen key is the one that the signature of a verified token is good under. -/
  used : ∀ (keys : KeySet) (key : Token.Key), KeySet.Chosen keys.keys header.keyId? key →
    (check s b { r with keys := keys }).1 = .ok () →
      key.material.family = header.algorithm.family ∧
        ∃ verifying, key.material.verifying = .ok verifying ∧
          parts.SignedUnder s.publicKeyCheck header.algorithm verifying
  /-- With no signature does the token verify under a key of another family. -/
  family : ∀ (keys : KeySet) (key : Token.Key), KeySet.Chosen keys.keys header.keyId? key →
    key.material.family ≠ header.algorithm.family → ∀ signature,
      (check s b { r with
        token := ({ parts with signature := signature } : Compact).text, keys := keys }).1 ≠ .ok ()
  /-- With no signature does a token for a shared secret verify under any other key. -/
  secret : ∀ (keys : KeySet) (key : Token.Key), KeySet.Chosen keys.keys header.keyId? key →
    header.algorithm ∈ [Token.Algorithm.hs256, .hs384, .hs512] →
    (∀ k, key.material ≠ .octets k) → ∀ signature,
      (check s b { r with
        token := ({ parts with signature := signature } : Compact).text, keys := keys }).1 ≠ .ok ()

/-- Of a token that has a preview, the parts and the header decide which key it is checked with. It
is the first that has the key id of the header, or the only one there is if the header has none;
without such a key, and with one whose family is not that of the algorithm, the token is refused
whatever stands in the place of its signature. Keys of other ids may come and go. -/
theorem check_key_choice {registry : Registry}
    (preview : Preview.ofToken registry r.token = .ok r.preview) (s : Setting) (b : Binder) :
    ∃ parts header, Compact.split r.token = .ok parts ∧ parts.readHeader = .ok header ∧
      KeyChoice s b r parts header := by
  obtain ⟨parts, header, -, -, cut, head, -⟩ := Preview.ofToken_eq_ok_iff.mp preview
  have notFound : ∀ keys : KeySet, (check s b { r with keys := keys }).1 = .error .keyNotFound ↔
      ∀ key, ¬KeySet.Chosen keys.keys header.keyId? key := by
    intro keys
    rw [check_eq_keyNotFound_iff, authenticate_eq_keyNotFound_iff cut head,
      KeySet.select_eq_none_iff]
  have family : ∀ (keys : KeySet) (key : Token.Key), KeySet.Chosen keys.keys header.keyId? key →
      key.material.family ≠ header.algorithm.family → ∀ signature, (check s b { r with
        token := ({ parts with signature := signature } : Compact).text, keys := keys }).1 ≠
          .ok () :=
    fun keys key chosen differ signature =>
      check_ne_ok_of_family cut head (KeySet.select_eq_some_iff.mpr chosen) differ signature
  refine ⟨parts, header, cut, head, ?_⟩
  exact {
    notFound := notFound
    chosenOnly := fun keys keys' same => check_congr cut head (KeySet.select_congr same)
    missing := by
      intro id named keys foreign
      rw [notFound, named]
      exact KeySet.not_chosen_of_foreign foreign
    others := by
      intro id named keys keys' same
      apply check_congr cut head
      rw [named]
      exact KeySet.select_of_filter same
    later := by
      intro id named keys key mem own later
      apply check_congr cut head
      rw [named]
      exact KeySet.select_append mem own later
    unnamed := by
      intro unnamed keys several
      rw [notFound, unnamed]
      intro key chosen
      generalize keys.keys = l at chosen several
      cases chosen
      exact several rfl
    used := by
      intro keys key chosen verified
      obtain ⟨parts', cut', header', key', verifying, head', selected, sort, ready, good⟩ :=
        signed_of_check verified
      obtain rfl : parts = parts' := Except.ok.inj (cut.symm.trans cut')
      obtain rfl : header = header' := Except.ok.inj (head.symm.trans head')
      obtain rfl : key = key' :=
        Option.some.inj ((KeySet.select_eq_some_iff.mpr chosen).symm.trans selected)
      exact ⟨sort, verifying, ready, good⟩
    family := family
  -- The last field is `family` for a shared secret: no other kind of key is of the family of HMAC.
    secret := by
      intro keys key chosen shared others signature
      refine family keys key chosen ?_ signature
      intro same
      have hmac : header.algorithm.family = .hmac := by
        simp only [List.mem_cons, List.not_mem_nil, or_false] at shared
        rcases shared with named | named | named <;> rw [named] <;> rfl
      obtain ⟨k, octets⟩ := Token.KeyMaterial.eq_octets_of_family (same.trans hmac)
      exact others k octets }

/-- The token of Alpha verifies with the key of Alpha between one of Beta and another of the same
id. It has no key in the set of Beta; and where the other key, which is for another family, comes
first, it does not verify with any signature. -/
theorem check_key_choice_alpha :
    let alpha : Registration := Conversation.alphaAndBeta[0]
    let beta : Registration := Conversation.alphaAndBeta[1]
    let salt : Salt := ⟨List.replicate 32 9⟩
    let v := Conversation.aliceToBob .sha512
    let n : CompoundNonce := ⟨⟨List.replicate 32 1, List.length_replicate⟩,
      stretch .sha512 v.fingerprint.bytes salt.bytes⟩
    let s : Setting :=
      ⟨.sha512, .none, v.fingerprint, salt, .ignore, .ofSeconds 60, fun _ => .issuer⟩
    let r := alpha.routed 0 (issuedToken alpha.entry 1700000000 alpha.clientId n.text)
    let other : Token.Key := { material := .rsa "AQAB" "AQAB", id? := some "alpha-1" }
    (check s {} { r with keys := ⟨[beta.issuer.key, alpha.issuer.key, other]⟩ }).1 = .ok () ∧
      (check s {} { r with keys := beta.issuer.keySet }).1 = .error .keyNotFound ∧
      ∃ parts, Compact.split r.token = .ok parts ∧ ∀ signature, (check s {} { r with
        token := ({ parts with signature := signature } : Compact).text
        keys := ⟨[other, alpha.issuer.key]⟩ }).1 ≠ .ok () := by
  intro alpha beta salt v n s r other
  have clock : FitsClock 1700000000 := by decide
  have member : alpha ∈ v.members := List.mem_cons_self
  have preview : Preview.ofToken (registryOf v.members) r.token = .ok r.preview :=
    Verification.preview_issued v.family clock member n.text
  have bound : n.hash = stretch s.digest s.fingerprint.bytes s.salt.bytes := rfl
  have good : (check s {} r).1 = .ok () :=
    (check_eq_verdict (s := s) .empty r).1.trans
      (Verification.verdict_issued v.family clock member rfl bound 0)
  obtain ⟨parts, header, cut, head, choice⟩ := check_key_choice preview s {}
  obtain rfl : header = ⟨.hs256, some "alpha-1"⟩ := by
    obtain rfl := Except.ok.inj ((Issuer.split_sign _ _).symm.trans cut)
    exact (Except.ok.inj ((Issuer.readHeader_parts _ _).symm.trans head)).symm
  have foreign : ¬(beta.issuer.key.id? == some "alpha-1") = true := by decide
  refine ⟨?_, ?_, parts, cut, ?_⟩
  · have behind := choice.later _ rfl ⟨[beta.issuer.key, alpha.issuer.key]⟩ alpha.issuer.key
      (List.mem_cons_of_mem _ List.mem_cons_self) rfl [other]
    have beside := choice.others _ rfl alpha.issuer.keySet ⟨[beta.issuer.key, alpha.issuer.key]⟩
      (List.filter_cons_of_neg foreign)
    exact (congrArg Prod.fst (behind.trans beside)).trans good
  · exact choice.missing _ rfl beta.issuer.keySet (by decide)
  · have chosen : KeySet.Chosen ([] ++ other :: [alpha.issuer.key]) (some "alpha-1") other :=
      .named rfl (List.forall_mem_nil _)
    exact choice.family ⟨[other, alpha.issuer.key]⟩ other chosen (by decide)

end RoutedToken

end TokenBinding
