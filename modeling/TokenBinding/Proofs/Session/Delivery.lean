import TokenBinding.Proofs.Session.Honest
import TokenBinding.Proofs.Token.Parts

/-!
# What of a produced bundle is delivered

A session keeps a token if its nonce claim can be read and is the nonce that was sent. Reading the
claim takes header and payload apart, so nothing in them can disturb the text of a bundle. The
signature is not looked at, and a client may put anything there: a `?`, with which the whole bundle
is refused, a `;`, with which the token falls into pieces, or a blank at the end, which is cut off.

What it does not establish. That a token arrives does not make it verify: whoever sends the wrong
signature has it delivered as it is.

Main statement: `produce_delivered_iff`. A produced bundle is read back exactly if all signatures in
it are `Inert`. If one of them has a `?` in it, no token arrives, those of other providers included
(`produce_spoiled`). Without that, each token is read for itself, and one whose signature is inert
arrives.
-/

namespace TokenBinding

/-- A signature that stands in the text of a bundle as it is. -/
structure Bundle.Inert (signature : List Char) : Prop where
  noSaltSeparator : saltSeparator ∉ signature
  noTokenSeparator : tokenSeparator ∉ signature
  trimmed : Text.trimEnd signature = signature

/-- A character that is no separator and no blank can be put behind a signature without harm. -/
theorem Bundle.Inert.push {signature : List Char} (h : Inert signature) {c : Char}
    (solid : Text.isBlank c = false) (noSalt : c ≠ saltSeparator) (noToken : c ≠ tokenSeparator) :
    Inert (signature ++ [c]) := by
  refine ⟨?_, ?_, Text.trimEnd_append_cons solid signature []⟩
  · simp only [List.mem_append, List.mem_singleton, h.noSaltSeparator, noSalt.symm, or_false,
      not_false_eq_true]
  · simp only [List.mem_append, List.mem_singleton, h.noTokenSeparator, noToken.symm, or_false,
      not_false_eq_true]

namespace Token

variable {α : Type} {wanted : Json.Document → Option α}

/-- A token with readable claims survives in a bundle exactly if its signature is inert. Header and
payload are base64 then, so what could disturb the bundle is behind the last point. -/
theorem carried_iff_of_readUnverified {token : String} {a : α}
    (h : readUnverified wanted token = .ok a) :
    Bundle.Carried token ↔
      ∃ parts, Compact.split token = .ok parts ∧ Bundle.Inert parts.signature := by
  obtain ⟨parts, front, cut, whole, plain⟩ := exists_front_of_readUnverified h
  -- In front of the signature there is no separator of a bundle, nor a blank.
  have mem_iff : ∀ mark ∈ Text.Base64.separators, mark ≠ Compact.separator →
      (mark ∈ token.toList ↔ mark ∈ parts.signature) := by
    intro mark among apart
    rw [whole, List.mem_append, List.mem_cons]
    constructor
    · rintro (inFront | same | behind)
      · exact absurd among ((plain mark inFront).2.resolve_left apart)
      · exact absurd same apart
      · exact behind
    · exact fun behind => .inr (.inr behind)
  have salts := mem_iff Bundle.saltSeparator (by decide) (by decide)
  have tokens := mem_iff Bundle.tokenSeparator (by decide) (by decide)
  have trimmed : Text.trimChars token.toList =
      front ++ Compact.separator :: Text.trimEnd parts.signature := by
    rw [whole]
    exact Text.trimChars_append_cons (fun c mem => (plain c mem).1) (by decide) parts.signature
  constructor
  · intro carried
    have same := trimmed.symm.trans (carried.trimmed.trans whole)
    exact ⟨parts, cut, fun mem => carried.noSaltSeparator (salts.mpr mem),
      fun mem => carried.noTokenSeparator (tokens.mpr mem),
      (List.cons.inj (List.append_cancel_left same)).2⟩
  · rintro ⟨parts', cut', inert⟩
    obtain rfl : parts = parts' := Except.ok.inj (cut.symm.trans cut')
    refine ⟨?_, ?_, fun mem => inert.noTokenSeparator (tokens.mp mem),
      fun mem => inert.noSaltSeparator (salts.mp mem)⟩
    · rw [whole]
      exact List.append_ne_nil_of_right_ne_nil _ (List.cons_ne_nil _ _)
    · rw [trimmed, inert.trimmed, whole]

end Token

namespace Session

variable {σ : Type} {env : Surroundings} {client : Authorization.Client σ}

/-! ## What is kept -/

/-- A token that is accepted has a nonce that can be read. -/
theorem readable_of_accept {pending : CompoundNonce} {token kept : String}
    (h : accept pending token = .ok kept) : ∃ claim?, Token.unverifiedNonce kept = .ok claim? := by
  unfold accept at h
  split at h
  · cases h
  · cases h
  · next claim read =>
    split at h
    · cases h
      exact ⟨some claim, read⟩
    · cases h

theorem readable_of_ceremony {request : AuthorizationRequest} {pending : CompoundNonce} {c : σ}
    {kept : String} (h : (ceremony client request pending c).result? = some (.ok kept)) :
    ∃ claim?, Token.unverifiedNonce kept = .ok claim? := by
  unfold ceremony at h
  split at h
  · cases h
  · cases h
  · dsimp only at h
    split at h
    · cases h
    · cases h
    · exact readable_of_accept (Option.some.inj h)

/-- The tokens of a production are the one that its first step kept, if it kept one, and those of
the rest. -/
theorem Ending.keep_eq_tokens {ending : Ending} {token? : Option String} {tokens : List String}
    (h : ending.keep token? = .tokens tokens) :
    ∃ more, ending = .tokens more ∧ tokens = token?.toList ++ more := by
  cases ending with
  | tokens more => exact ⟨more, rfl, (Ending.tokens.inj h).symm⟩
  | error cause => cases h
  | waiting => cases h

/-- The nonce claim of every token that a queue gives can be read. By induction on the providers,
whatever the client does in between. -/
theorem readable_of_runQueue {providers : List Provider} {s : Session} {c : σ}
    {tokens : List String} (h : (runQueue env client providers s c).ending = .tokens tokens) :
    ∀ t ∈ tokens, ∃ claim?, Token.unverifiedNonce t = .ok claim? := by
  induction providers generalizing s c tokens with
  | nil =>
    cases h
    exact nofun
  | cons provider rest ih =>
    unfold runQueue at h
    split at h
    · cases h
    · next f effects s' got =>
      dsimp only at h
      split at h
      · cases h
      · next result ended =>
        obtain ⟨more, later, rfl⟩ := Ending.keep_eq_tokens h
        intro t mem
        rcases List.mem_append.mp mem with first | behind
        · cases result with
          | error cause => cases first
          | ok kept =>
            obtain rfl := List.mem_singleton.mp first
            exact readable_of_ceremony ended
        · exact ih later t behind

/-- A bundle that is produced has the salt of its session, and in each of its tokens a nonce that
can be read. -/
theorem readable_of_produce {ids : List String} {s : Session} {c : σ} {p : Bundle}
    (h : (produce env client ids s c).ending = some (.ok p)) :
    p.salt = s.salt ∧ ∀ t ∈ p.tokens, ∃ claim?, Token.unverifiedNonce t = .ok claim? := by
  unfold produce at h
  dsimp only at h
  split at h
  · next tokens ended =>
    cases h
    exact ⟨rfl, readable_of_runQueue ended⟩
  · cases h
  · cases h

/-! ## What is delivered -/

/-- A produced bundle is read back exactly if every signature in it is inert. With a `?` in one of
its tokens the whole of it is refused; otherwise each token is read for itself, and one with an
inert signature is read as it was produced. -/
theorem produce_delivered_iff {ids : List String} {s : Session} {c : σ} {p : Bundle}
    (produced : (produce env client ids s c).ending = some (.ok p)) :
    p.salt = s.salt ∧
      (Bundle.parse p.toWire = .ok p ↔
        ∀ t ∈ p.tokens, ∃ parts,
          Token.Compact.split t = .ok parts ∧ Bundle.Inert parts.signature) ∧
      ((∃ t ∈ p.tokens, Bundle.saltSeparator ∈ t.toList) →
        Bundle.parse p.toWire = .error .extraSeparator) ∧
      ((∀ t ∈ p.tokens, Bundle.saltSeparator ∉ t.toList) →
        Bundle.parse p.toWire =
          .ok ⟨p.salt, p.tokens.flatMap fun t => Bundle.parseTokens t.toList⟩) ∧
      ∀ t ∈ p.tokens, ∀ parts, Token.Compact.split t = .ok parts →
        Bundle.Inert parts.signature → Bundle.parseTokens t.toList = [t] := by
  obtain ⟨salt, readable⟩ := readable_of_produce produced
  have carried_iff : ∀ t ∈ p.tokens, Bundle.Carried t ↔
      ∃ parts, Token.Compact.split t = .ok parts ∧ Bundle.Inert parts.signature := by
    intro t mem
    obtain ⟨claim?, read⟩ := readable t mem
    exact Token.carried_iff_of_readUnverified (Token.unverifiedNonce_eq_ok_iff.mp read)
  refine ⟨salt, ?_, ?_, ?_, ?_⟩
  · rw [Bundle.parse_toWire_eq_ok_iff]
    exact ⟨fun carried t mem => (carried_iff t mem).mp (carried t mem),
      fun inert t mem => (carried_iff t mem).mpr (inert t mem)⟩
  · intro spoiled
    rw [Bundle.parse_toWire_eq, if_pos spoiled]
  · intro free
    rw [Bundle.parse_toWire_eq, if_neg]
    exact fun ⟨t, mem, inside⟩ => free t mem inside
  · intro t mem parts cut inert
    exact ((carried_iff t mem).mpr ⟨parts, cut, inert⟩).parseTokens

/-! ## A client that adds to its tokens -/

open Authorization.Simulated (Entry FitsClock issuedToken)

/-- A client that grants every request, with its nonce for a code, and exchanges the code for a
token that carries the nonce, with a text of the provider's own behind the signature. -/
def trailingClient (e : Entry) (now : UInt64) (tail : Provider → String) :
    Authorization.Client Unit where
  authorize request c := (.returned (.ok ⟨request.provider, request.nonce, request.state⟩), c)
  exchange a c :=
    (.returned (.ok (issuedToken e now a.provider.clientId a.code ++ tail a.provider)), c)

/-- The tokens that this client gives out for these nonces. -/
def trailingTokens (e : Entry) (now : UInt64) (tail : Provider → String)
    (providers : List Provider) (nonces : List CompoundNonce) : List String :=
  List.zipWith (fun p n => issuedToken e now p.clientId n.text ++ tail p) providers nonces

variable {e : Entry} {now : UInt64} {tail : Provider → String} {f : Fingerprint}

/-- A token is accepted for its nonce, with any text behind its signature that has no point in
it. -/
theorem accept_trailing (clock : FitsClock now) (pending : CompoundNonce) (clientId : String)
    {text : String} (free : Token.Compact.separator ∉ text.toList) :
    accept pending (issuedToken e now clientId pending.text ++ text) =
      .ok (issuedToken e now clientId pending.text ++ text) := by
  have issued : Token.unverifiedNonce (issuedToken e now clientId pending.text) =
      .ok (some pending.text) := Authorization.Simulated.unverifiedNonce_issued clock
  have read := Token.unverifiedNonce_eq_ok_iff.mpr
    (Token.readUnverified_append (Token.unverifiedNonce_eq_ok_iff.mp issued) free)
  simp only [accept, read, CompoundNonce.isEchoedBy, beq_self_eq_true, if_true]

/-- A queue keeps every token of this client, as long as the texts have no point in them. The text
behind a token becomes part of its signature, which nobody looks at. -/
theorem runQueue_trailing (clock : FitsClock now)
    (free : ∀ p, Token.Compact.separator ∉ (tail p).toList) {s : Session} (ready : s.Ready env f)
    (providers : List Provider) :
    (runQueue env (trailingClient e now tail) providers s ()).ending =
      .tokens (trailingTokens e now tail providers
        (pendings env f s.salt s.drawn providers.length)) := by
  induction providers generalizing s with
  | nil => rfl
  | cons provider rest ih =>
    let pending := pendingAt env f s.salt s.drawn
    let request : AuthorizationRequest :=
      .ofNonce provider pending.text (env.state s.drawn)
    have kept := accept_trailing (e := e) clock pending provider.clientId (free provider)
    have ended : ceremony (trailingClient e now tail) request pending () =
        ⟨some (.ok (issuedToken e now provider.clientId pending.text ++ tail provider)),
          [.authorize request, .exchange ⟨provider, pending.text, env.state s.drawn⟩], ()⟩ := by
      rw [← kept]
      rfl
    obtain ⟨silent, -, unfolded⟩ := runQueue_cons ready rest ended
    rw [unfolded]
    simp only [ih ready.advanced, Ending.keep]
    rfl

/-- So does a call. -/
theorem produce_trailing (clock : FitsClock now)
    (free : ∀ p, Token.Compact.separator ∉ (tail p).toList) {s : Session} (ready : s.Ready env f)
    (ids : List String) :
    (produce env (trailingClient e now tail) ids s ()).ending =
      some (.ok ⟨s.salt, trailingTokens e now tail (s.registry.select ids)
        (pendings env f s.salt s.drawn (s.registry.select ids).length)⟩) := by
  have queue := runQueue_trailing (e := e) clock free ready (s.registry.select ids)
  simp only [produce, queue]

/-- A text of one character behind the tokens of the provider Beta, and none behind others. -/
def behindBeta (c : Char) (p : Provider) : String :=
  if p.displayId = "Beta" then String.singleton c else ""

/-- A session with the providers Alpha and Beta, which holds its fingerprint. -/
def alphaBetaSession : Session where
  peer := ⟨"peer"⟩
  registry :=
    ⟨[⟨"Alpha", "https://alpha.test" ++ discoverySuffix, "client", ""⟩,
      ⟨"Beta", "https://beta.test" ++ discoverySuffix, "client", ""⟩]⟩
  salt := ⟨List.replicate 32 9⟩
  cell := ⟨some ⟨[2]⟩⟩

/-- Surroundings in which nonces are numbers. -/
def numberedSurroundings : Surroundings where
  digest := .sha512
  identities := IdentityTable.source { self? := none }
  fingerprints := fun _ _ => .error (.computation "offline")
  trueNonce i := ⟨Bytes.bigEndian 32 i, Bytes.length_bigEndian 32 i⟩
  state _ := ""

/-- The entry that the tokens of these sessions are issued by. -/
def alphaEntry : Entry where
  issuer := ⟨"https://alpha.test", "alpha-1", Bytes.ofText "alpha-provider-signing-key-000000"⟩
  email := "alice@alpha.test"

theorem point_not_mem_behindBeta {c : Char} (h : c ≠ Token.Compact.separator) (p : Provider) :
    Token.Compact.separator ∉ (behindBeta c p).toList := by
  unfold behindBeta
  split
  · rw [String.toList_singleton, List.mem_singleton]
    exact h.symm
  · exact List.not_mem_nil

/-- Both tokens are kept, and the one of Beta has the character behind it. -/
theorem produce_alphaBeta {c : Char} (h : c ≠ Token.Compact.separator) :
    ∃ nonce nonce',
      (produce numberedSurroundings (trailingClient alphaEntry 1700000000 (behindBeta c))
        ["Alpha", "Beta"] alphaBetaSession ()).ending =
          some (.ok ⟨alphaBetaSession.salt,
            [issuedToken alphaEntry 1700000000 "client" nonce,
              issuedToken alphaEntry 1700000000 "client" nonce' ++ String.singleton c]⟩) := by
  have clock : FitsClock 1700000000 := by decide
  have ready : alphaBetaSession.Ready numberedSurroundings ⟨[2]⟩ := ⟨.empty, rfl⟩
  have produced := produce_trailing (e := alphaEntry) clock (point_not_mem_behindBeta h) ready
    ["Alpha", "Beta"]
  refine ⟨(pendingAt numberedSurroundings ⟨[2]⟩ alphaBetaSession.salt 0).text,
    (pendingAt numberedSurroundings ⟨[2]⟩ alphaBetaSession.salt 1).text, ?_⟩
  have selected : alphaBetaSession.registry.select ["Alpha", "Beta"] =
      alphaBetaSession.registry.providers := by decide
  rw [produced, selected]
  simp only [alphaBetaSession, trailingTokens, List.length_cons, List.length_nil, pendings,
    List.range'_succ, List.range'_zero, List.map_cons, List.map_nil, List.zipWith_cons_cons,
    List.zipWith_nil_left, behindBeta, String.reduceEq, if_true, if_false, String.append_empty]

/-- A `?` behind the token of Beta costs the whole bundle, the token of Alpha with it. -/
theorem produce_spoiled :
    ∃ p t t', (produce numberedSurroundings
        (trailingClient alphaEntry 1700000000 (behindBeta '?')) ["Alpha", "Beta"]
        alphaBetaSession ()).ending = some (.ok p) ∧
      p.tokens = [t, t'] ∧ Bundle.Carried t ∧
      Bundle.parse p.toWire = .error .extraSeparator := by
  obtain ⟨nonce, nonce', produced⟩ := produce_alphaBeta (c := '?') (by decide)
  refine ⟨_, _, _, produced, rfl,
    Authorization.Simulated.carried_issuedToken alphaEntry 1700000000 "client" nonce, ?_⟩
  rw [Bundle.parse_toWire_eq, if_pos]
  refine ⟨_, List.mem_cons_of_mem _ (List.mem_singleton_self _), ?_⟩
  rw [String.toList_append]
  exact List.mem_append_right _ (List.mem_singleton_self _)

/-- A `!` behind it makes a signature that is no base64, and both tokens arrive. -/
theorem produce_delivered_iff_alphaBeta :
    ∃ p, (produce numberedSurroundings
        (trailingClient alphaEntry 1700000000 (behindBeta '!')) ["Alpha", "Beta"]
        alphaBetaSession ()).ending = some (.ok p) ∧
      p.tokens.length = 2 ∧ Bundle.parse p.toWire = .ok p := by
  have clock : FitsClock 1700000000 := by decide
  obtain ⟨nonce, nonce', produced⟩ := produce_alphaBeta (c := '!') (by decide)
  have inert : ∀ nonce, ∃ parts,
      Token.Compact.split (issuedToken alphaEntry 1700000000 "client" nonce) = .ok parts ∧
        Bundle.Inert parts.signature := by
    intro nonce
    have read : Token.unverifiedNonce (issuedToken alphaEntry 1700000000 "client" nonce) =
        .ok (some nonce) := Authorization.Simulated.unverifiedNonce_issued clock
    exact (Token.carried_iff_of_readUnverified (Token.unverifiedNonce_eq_ok_iff.mp read)).mp
      (Authorization.Simulated.carried_issuedToken alphaEntry 1700000000 "client" nonce)
  refine ⟨_, produced, rfl, (produce_delivered_iff produced).2.1.mpr ?_⟩
  intro t mem
  rcases List.mem_cons.mp mem with rfl | mem
  · exact inert nonce
  · obtain rfl := List.mem_singleton.mp mem
    obtain ⟨parts, cut, still⟩ := inert nonce'
    have free : Token.Compact.separator ∉ (String.singleton '!').toList := by decide
    exact ⟨_, Token.Compact.split_append cut free,
      still.push (by decide) (by decide) (by decide)⟩

end Session

end TokenBinding
