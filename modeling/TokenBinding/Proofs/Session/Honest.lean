import TokenBinding.Proofs.Authorization.Family
import TokenBinding.Proofs.Authorization.IssuedToken
import TokenBinding.Proofs.Bundle.Wire
import TokenBinding.Proofs.Nonce.Spelling
import TokenBinding.Proofs.Session.Transcript

/-!
# A session with an honest client

The simulated client serves a family honestly as long as its entries are those of the family
(`Serves`), whatever codes it gave out before. A ceremony with it ends with the token that carries
the nonce of the request, and that token is kept (`ceremony_honest`); so a queue gives one token for
each provider (`runQueue_honest`), and these tokens survive the way through a bundle.
-/

namespace TokenBinding

open Authorization.Simulated

/-- A token that was signed survives the way through a bundle. Its three parts are base64 without
padding, in which there is neither a separator nor a blank. -/
theorem Issuer.carried_sign (i : Issuer) (claims : Json.Value) :
    Bundle.Carried (i.sign claims) := by
  have plain : ∀ c ∈ (i.sign claims).toList,
      Text.isBlank c = false ∧ c ≠ Bundle.tokenSeparator ∧ c ≠ Bundle.saltSeparator := by
    intro c mem
    rcases Token.mem_sign mem with rfl | ⟨bs, part⟩
    · decide
    · obtain ⟨solid, free⟩ := Token.plain_of_mem_encodePart part
      refine ⟨solid, ?_, ?_⟩
      · rintro rfl
        exact free (by decide)
      · rintro rfl
        exact free (by decide)
  refine ⟨?_, Text.trimChars_of_not_blank fun c mem => (plain c mem).1,
    fun mem => (plain _ mem).2.1 rfl, fun mem => (plain _ mem).2.2 rfl⟩
  rw [Issuer.sign, Token.sign_eq_text, Token.Compact.text, String.toList_ofList]
  exact List.append_ne_nil_of_right_ne_nil _ (List.cons_ne_nil _ _)

namespace Authorization.Simulated

/-- The client serves every member of the family honestly. -/
def Serves (rs : List Registration) (c : State) : Prop :=
  ∀ r ∈ rs, c.entry? r.displayId = some r.entry

theorem serves_ofRegistrations {rs : List Registration} (family : Family rs) :
    Serves rs (State.ofRegistrations rs) := fun _ mem => entry?_ofRegistrations family mem

/-- A token that is issued gets through a bundle unchanged. -/
theorem carried_issuedToken (e : Entry) (now : UInt64) (clientId nonce : String) :
    Bundle.Carried (issuedToken e now clientId nonce) := e.issuer.carried_sign _

end Authorization.Simulated

namespace Session

variable {now : UInt64} {rs : List Registration} {c : State}

/-- An honest authorization gives out a code for the nonce of the request. -/
theorem authorize_honest (draws : Draws) {r : Registration}
    (served : c.entry? r.displayId = some r.entry) (nonce state : String) :
    ∃ code granted, State.authorize draws (.ofNonce r.provider nonce state) c =
        (.returned (.ok ⟨r.provider, code, state⟩), granted) ∧
      granted.codes.lookup code = some ⟨r.displayId, some nonce⟩ ∧
      granted.providers = c.providers := by
  let request : AuthorizationRequest := .ofNonce r.provider nonce state
  have entry : c.entry? request.provider.displayId = some r.entry := served
  have granted : State.authorize draws request c =
      State.grant draws request (some nonce)
        { c.noteRequest request with lastNonce? := some request.nonce } := by
    simp only [State.authorize, entry]
    rfl
  exact ⟨draws.code c.issued, _, granted, List.lookup_cons_self, rfl⟩

/-- An honest exchange gives the token that carries the nonce of the code. -/
theorem exchange_honest (now : UInt64) (state : String) {r : Registration} {code nonce : String}
    (served : c.entry? r.displayId = some r.entry)
    (issued : c.codes.lookup code = some ⟨r.displayId, some nonce⟩) :
    ∃ spent, State.exchange now ⟨r.provider, code, state⟩ c =
        (.returned (.ok (issuedToken r.entry now r.clientId nonce)), spent) ∧
      spent.providers = c.providers := by
  have honest : r.entry.behavior ≠ .failExchange := nofun
  refine ⟨{ c with
    exchanges := c.exchanges + 1, codes := c.codes.filter fun p => p.1 ≠ code }, ?_, rfl⟩
  simp only [State.exchange, issued, served, if_neg honest]
  rfl

/-- A ceremony with an honest client gives the token that carries the nonce of the request. The code
is drawn and handed in at once, so nothing can come in between. -/
theorem ceremony_honest (draws : Draws) {r : Registration} (clock : FitsClock now)
    (served : c.entry? r.displayId = some r.entry) (pending : CompoundNonce) (state : String) :
    ∃ calls c', ceremony (client draws now) (.ofNonce r.provider pending.text state) pending c =
        ⟨some (.ok (issuedToken r.entry now r.clientId pending.text)), calls, c'⟩ ∧
      c'.providers = c.providers := by
  have accepted : accept pending (issuedToken r.entry now r.clientId pending.text) =
      .ok (issuedToken r.entry now r.clientId pending.text) := by
    simp only [accept, unverifiedNonce_issued clock, CompoundNonce.isEchoedBy, beq_self_eq_true,
      if_true]
  obtain ⟨code, granted, authorized, issued, same⟩ :=
    authorize_honest draws served pending.text state
  have served' : granted.entry? r.displayId = some r.entry := by
    rw [State.entry?, same]
    exact served
  obtain ⟨spent, exchanged, same'⟩ := exchange_honest now state served' issued
  refine ⟨[.authorize (.ofNonce r.provider pending.text state),
    .exchange ⟨r.provider, code, state⟩], spent, ?_, same'.trans same⟩
  simp only [ceremony, client, authorized, exchanged, accepted]

/-- The tokens that an honest client issues to these members for these nonces. -/
def honestTokens (now : UInt64) (members : List Registration) (nonces : List CompoundNonce) :
    List String :=
  List.zipWith (fun r n => issuedToken r.entry now r.clientId n.text) members nonces

variable {env : Surroundings} {f : Fingerprint} {s : Session}

/-- A queue with an honest client gives a token for each provider, in order, with the nonces that
the session draws. -/
theorem runQueue_honest (draws : Draws) (clock : FitsClock now) (ready : s.Ready env f)
    (serves : Serves rs c) {members : List Registration} (among : ∀ r ∈ members, r ∈ rs) :
    (runQueue env (client draws now) (members.map Registration.provider) s c).ending =
      .tokens (honestTokens now members (pendings env f s.salt s.drawn members.length)) := by
  induction members generalizing s c with
  | nil => rfl
  | cons r members ih =>
    obtain ⟨calls, c', ended, same⟩ :=
      ceremony_honest draws clock (serves r (among r List.mem_cons_self))
        (pendingAt env f s.salt s.drawn) (env.state s.drawn)
    obtain ⟨silent, -, unfolded⟩ :=
      runQueue_cons ready (members.map Registration.provider) ended
    have serves' : Serves rs c' := by
      intro r mem
      rw [State.entry?, same]
      exact serves r mem
    have later := ih ready.advanced serves' fun r mem => among r (List.mem_cons_of_mem _ mem)
    rw [List.map_cons, unfolded]
    simp only [later, Ending.keep]
    rfl

/-- A call with an honest client gives a bundle with a token for each selected member. -/
theorem produce_honest (draws : Draws) (clock : FitsClock now) (ready : s.Ready env f)
    (serves : Serves rs c) (known : s.registry = registryOf rs) (ids : List String) :
    (produce env (client draws now) ids s c).ending =
      some (.ok ⟨s.salt, honestTokens now (selected rs ids)
        (pendings env f s.salt s.drawn (selected rs ids).length)⟩) := by
  have queue := runQueue_honest draws clock ready serves
    (fun r (mem : r ∈ selected rs ids) => mem_of_mem_selected mem)
  rw [← select_registryOf, ← known] at queue
  simp only [produce, queue]

/-- The tokens of an honest client survive the way through a bundle. -/
theorem carried_honestTokens {members : List Registration} {nonces : List CompoundNonce}
    {token : String} (h : token ∈ honestTokens now members nonces) : Bundle.Carried token := by
  induction members generalizing nonces with
  | nil => cases h
  | cons r members ih =>
    cases nonces with
    | nil => cases h
    | cons n nonces =>
      rcases List.mem_cons.mp h with rfl | later
      · exact carried_issuedToken _ _ _ _
      · exact ih later

end Session

end TokenBinding
