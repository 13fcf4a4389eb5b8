import TokenBinding.Proofs.Token.Signed

/-!
# Signed claims that are read back

What an issuer signs is read back without verification as it was signed, whatever the issuer, its
key and its secret are. The claims may have any other members of any depth; their numbers are whole
and have 64 bits, and no name stands twice.

`Says` is what claims say under a name that is for a text, `Signable` what is asked of the claims
that the reader of the registered claims looks at, and `Routes` where claims lead, by the order of
the table. `Routes` is no reader: it is stated by the members of the table, one constructor a
result, and each result is that of exactly one (`ofClaims_eq_iff`).

What it does not establish. Claims with fractions, with numbers of more than 64 bits or with one
name twice are not covered, and nothing is said about tokens that were not signed by this issuer.

Main statement: `read_back`.
-/

namespace TokenBinding

open Json (Document Node Value)

/-! ## Members of signed claims -/

/-- What claims say under a name that is for a text: nothing, if there is no such claim or it is
`null`. -/
inductive Says (ms : List (String × Value)) (name : String) : Option String → Prop
  | absent (h : name ∉ ms.map Prod.fst) : Says ms name none
  | null (h : (name, .null) ∈ ms) : Says ms name none
  | text {s : String} (h : (name, .text s) ∈ ms) : Says ms name (some s)

/-- Claims that an issuer can sign and a reader of tokens can read. -/
structure Signable (ms : List (String × Value)) : Prop where
  distinct : (ms.map Prod.fst).Nodup
  exact : (Value.object ms).Exact
  exp : ∀ v, ("exp", v) ∈ ms → ∃ n, v = .integer n
  nbf : ∀ v, ("nbf", v) ∈ ms → ∃ n, v = .integer n
  sub : ∀ v, ("sub", v) ∈ ms → ∃ s, v = .text s
  aud : ∀ v, ("aud", v) ∈ ms →
    (∃ s, v = .text s) ∨ ∃ texts : List String, v = .array (texts.map .text)

variable {ms : List (String × Value)} {name : String} {text? : Option String}

/-- A text is read back as it was signed. -/
theorem Says.textMember? (said : Says ms name text?) (distinct : (ms.map Prod.fst).Nodup) :
    (Document.ofSorted ms).textMember? name = some text? := by
  cases said with
  | absent h =>
    rw [Document.textMember?, Document.member?, Document.node?_ofSorted_of_not_mem distinct h]
  | null h =>
    rw [Document.textMember?, Document.member?, Document.node?_ofSorted distinct h]
    rfl
  | text h => exact Document.textMember?_of_node? (Document.node?_ofSorted distinct h)

/-- Claims stay such as an issuer can sign when some of them are left out. -/
theorem Signable.of_sublist {ms' : List (String × Value)} (signable : Signable ms)
    (sub : ms'.Sublist ms) : Signable ms' where
  distinct := (sub.map Prod.fst).nodup signable.distinct
  exact := by
    have exact : ∀ m ∈ ms, m.2.Exact := Value.exactMembers_iff.mp signable.exact
    exact Value.exactMembers_iff.mpr fun m mem => exact m (sub.subset mem)
  exp v mem := signable.exp v (sub.subset mem)
  nbf v mem := signable.nbf v (sub.subset mem)
  sub v mem := signable.sub v (sub.subset mem)
  aud v mem := signable.aud v (sub.subset mem)

namespace Token

/-- A claim is passed if its reader gets behind every value that was signed under its name. -/
theorem registeredOk_ofSorted {passes : Node → Bool} (distinct : (ms.map Prod.fst).Nodup)
    (passed : ∀ v, (name, v) ∈ ms → passes v.canonical.node = true) :
    registeredOk (Document.ofSorted ms) name passes = true := by
  by_cases signed : name ∈ ms.map Prod.fst
  · obtain ⟨m, mem, rfl⟩ := List.mem_map.mp signed
    simp only [registeredOk, Document.node?_ofSorted distinct mem]
    exact passed m.2 mem
  · simp only [registeredOk, Document.node?_ofSorted_of_not_mem distinct signed]

end Token

/-- Texts are sorted already. -/
theorem Json.Value.canonical_texts (texts : List String) :
    (Value.array (texts.map .text)).canonical = .array (texts.map .text) := by
  have items : Value.canonicalItems (texts.map .text) = texts.map .text := by
    induction texts with
    | nil => rfl
    | cons s rest ih =>
      rw [List.map_cons, Value.canonicalItems, ih]
      rfl
  rw [Value.canonical, items]

/-- A list of texts is read whole. -/
theorem Json.Value.read_texts (texts : List String) :
    (Value.array (texts.map .text)).node.read = .ok (.array (texts.map .text)) := by
  have flat : Node.itemsDepth (Value.itemNodes (texts.map .text)) = 0 := by
    induction texts with
    | nil => rfl
    | cons s rest ih =>
      rw [List.map_cons, Value.itemNodes, Node.itemsDepth, ih]
      rfl
  have shallow : (Value.array (texts.map .text)).node.depth ≤ Node.greatestDepth := by
    rw [Value.node, Node.depth, flat]
    decide
  rw [Node.read, if_pos shallow, Value.value_node]

/-- The reader of the registered claims gets behind claims that were signed: each of them is absent,
or of a type that it takes. -/
theorem Signable.registeredClaimsOk (signable : Signable ms) (iss : Says ms "iss" text?) :
    Token.registeredClaimsOk (Document.ofSorted ms) = true := by
  have exp : Token.registeredOk (Document.ofSorted ms) "exp" Token.passesTime = true := by
    apply Token.registeredOk_ofSorted signable.distinct
    intro v mem
    obtain ⟨n, rfl⟩ := signable.exp v mem
    rfl
  have nbf : Token.registeredOk (Document.ofSorted ms) "nbf" Token.passesTime = true := by
    apply Token.registeredOk_ofSorted signable.distinct
    intro v mem
    obtain ⟨n, rfl⟩ := signable.nbf v mem
    rfl
  have sub : Token.registeredOk (Document.ofSorted ms) "sub" Token.passesSubject = true := by
    apply Token.registeredOk_ofSorted signable.distinct
    intro v mem
    obtain ⟨s, rfl⟩ := signable.sub v mem
    rfl
  have aud : Token.registeredOk (Document.ofSorted ms) "aud" Token.passesParty = true := by
    apply Token.registeredOk_ofSorted signable.distinct
    intro v mem
    rcases signable.aud v mem with ⟨s, rfl⟩ | ⟨texts, rfl⟩
    · rfl
    · rw [Value.canonical_texts, Token.passesParty, Value.read_texts]
      rfl
  have iss : Token.registeredOk (Document.ofSorted ms) "iss" Token.passesParty = true := by
    cases iss with
    | absent h =>
      simp only [Token.registeredOk, Document.node?_ofSorted_of_not_mem signable.distinct h]
    | null h =>
      simp only [Token.registeredOk, Document.node?_ofSorted signable.distinct h]
      rfl
    | text h =>
      simp only [Token.registeredOk, Document.node?_ofSorted signable.distinct h]
      rfl
  rw [Token.registeredClaimsOk, exp, nbf, sub, iss, aud]
  rfl

/-- Wanted claims that are found in the claims are read from the token over them. -/
theorem Signable.readUnverified_sign {α : Type} {wanted : Document → Option α} {a : α}
    (signable : Signable ms) (iss : Says ms "iss" text?) (i : Issuer)
    (found : wanted (Document.ofSorted ms) = some a) :
    Token.readUnverified wanted (i.sign (.object ms)) = .ok a :=
  Token.readUnverified_eq_ok_iff.mpr ⟨_, _, _, i.split_sign ms, i.readHeader_parts ms,
    i.readPayload_parts signable.exact, found, signable.registeredClaimsOk iss⟩

/-! ## Routing -/

/-- The provider is one of this issuer. -/
def Provider.Serves (p : Provider) (issuer : String) : Prop :=
  p.discoveryUrl = issuer ++ discoverySuffix

/-- Where claims with this issuer and this identity lead. -/
inductive Routes (registry : Registry) (iss? email? : Option String) :
    Except PreviewError Preview → Prop
  /-- There is no identity, or nothing but blanks in it. -/
  | noIdentity (blank : ∀ email, email? = some email → ∀ c ∈ email.toList, Text.isBlank c = true) :
    Routes registry iss? email? (.error .noIdentity)
  /-- There is an identity, and no provider of the issuer. -/
  | unknownIssuer {email : String} (named : email? = some email)
    (visible : ∃ c ∈ email.toList, Text.isBlank c = false)
    (unserved : ∀ p ∈ registry.providers, ¬p.Serves (iss?.getD "")) :
    Routes registry iss? email? (.error (.unknownIssuer (iss?.getD "")))
  /-- There is an identity, and the provider is the first one of the issuer. -/
  | provider {email : String} {before after : List Provider} {p : Provider}
    (named : email? = some email) (visible : ∃ c ∈ email.toList, Text.isBlank c = false)
    (table : registry.providers = before ++ p :: after) (serves : p.Serves (iss?.getD ""))
    (first : ∀ q ∈ before, ¬q.Serves (iss?.getD "")) :
    Routes registry iss? email? (.ok ⟨email, iss?.getD "", p⟩)

/-- A provider matches the issuer that it serves, and no other. -/
theorem Provider.matchesIssuer_iff {p : Provider} {issuer : String} :
    p.matchesIssuer issuer = true ↔ p.Serves issuer := beq_iff_eq

/-- An issuer has no provider if nobody in the table serves it. -/
theorem Registry.byIssuer?_eq_none_iff {registry : Registry} {issuer : String} :
    registry.byIssuer? issuer = none ↔ ∀ p ∈ registry.providers, ¬p.Serves issuer := by
  simp only [byIssuer?, List.find?_eq_none, Provider.matchesIssuer_iff]

/-- The provider of an issuer is the first in the table that serves it. -/
theorem Registry.byIssuer?_eq_some_iff {registry : Registry} {issuer : String} {p : Provider} :
    registry.byIssuer? issuer = some p ↔
      p.Serves issuer ∧ ∃ before after, registry.providers = before ++ p :: after ∧
        ∀ q ∈ before, ¬q.Serves issuer := by
  simp only [byIssuer?, List.find?_eq_some_iff_append, Provider.matchesIssuer_iff,
    Bool.not_eq_true', ← Bool.not_eq_true]

namespace Preview

/-- Claims are routed where they lead. That there is no identity is found before it is asked whose
the issuer is, and an issuer that is missing is the empty one. -/
theorem ofClaims_eq_iff {registry : Registry} {claims : Token.RoutingClaims}
    {r : Except PreviewError Preview} :
    ofClaims registry claims = r ↔ Routes registry claims.issuer? claims.identity? r := by
  obtain ⟨iss?, email?⟩ := claims
  have visible_iff (email : String) : ¬email.toList.all Text.isBlank = true ↔
      ∃ c ∈ email.toList, Text.isBlank c = false := by simp
  constructor
  · rintro rfl
    cases email? with
    | none => exact .noIdentity nofun
    | some email =>
      by_cases blank : email.toList.all Text.isBlank = true
      · simp only [ofClaims, if_pos blank]
        apply Routes.noIdentity
        rintro _ ⟨⟩
        exact List.all_eq_true.mp blank
      · have visible := (visible_iff email).mp blank
        simp only [ofClaims, if_neg blank]
        cases found : registry.byIssuer? (iss?.getD "") with
        | none => exact .unknownIssuer rfl visible (Registry.byIssuer?_eq_none_iff.mp found)
        | some p =>
          obtain ⟨serves, before, after, table, first⟩ := Registry.byIssuer?_eq_some_iff.mp found
          exact .provider rfl visible table serves first
  · intro routes
    cases routes with
    | noIdentity blank =>
      cases email? with
      | none => rfl
      | some email => simp only [ofClaims, if_pos (List.all_eq_true.mpr (blank email rfl))]
    | unknownIssuer named visible unserved =>
      cases named
      simp only [ofClaims, if_neg ((visible_iff _).mpr visible),
        Registry.byIssuer?_eq_none_iff.mpr unserved]
    | provider named visible table serves first =>
      cases named
      simp only [ofClaims, if_neg ((visible_iff _).mpr visible),
        Registry.byIssuer?_eq_some_iff.mpr ⟨serves, _, _, table, first⟩]

end Preview

/-! ## The token -/

variable {iss? email? : Option String}

/-- The token over the claims is routed where they lead. -/
theorem Signable.ofToken_sign_iff (signable : Signable ms) (iss : Says ms "iss" iss?)
    (email : Says ms "email" email?) (i : Issuer) {registry : Registry}
    {r : Except PreviewError Preview} :
    Preview.ofToken registry (i.sign (.object ms)) = r ↔ Routes registry iss? email? r := by
  have claims : Token.RoutingClaims.ofDocument? (Document.ofSorted ms) = some ⟨iss?, email?⟩ :=
    Token.RoutingClaims.ofDocument?_eq_some_iff.mpr
      ⟨iss.textMember? signable.distinct, email.textMember? signable.distinct⟩
  simp only [Preview.ofToken, signable.readUnverified_sign iss i claims]
  exact Preview.ofClaims_eq_iff

/-- Read back from the token over them, claims carry the nonce that they say, and lead where issuer
and identity lead, and nowhere else. Other members have no part in that, however they are nested,
and neither has the signature: it is whatever the secret makes it. -/
theorem read_back (i : Issuer) {ms : List (String × Value)} {iss? email? nonce? : Option String}
    (signable : Signable ms) (iss : Says ms "iss" iss?) (email : Says ms "email" email?)
    (nonce : Says ms "nonce" nonce?) :
    Token.unverifiedNonce (i.sign (.object ms)) = .ok nonce? ∧
      ∀ registry r,
        Preview.ofToken registry (i.sign (.object ms)) = r ↔ Routes registry iss? email? r := by
  constructor
  · apply Token.unverifiedNonce_eq_ok_iff.mpr
    exact signable.readUnverified_sign iss i (nonce.textMember? signable.distinct)
  · intro registry r
    exact signable.ofToken_sign_iff iss email i

/-- Claims with members of other names, a null nonce and an identity that has to be escaped. -/
theorem read_back_escaped :
    let i : Issuer := ⟨"https://alpha.example", "key \"1\"", [1, 2, 3]⟩
    let claims : List (String × Value) :=
      [("nonce", .null),
        ("extra", .object [("b", .array [.integer (-1), .object []]), ("a", .null)]),
        ("email", .text "é\\ \"\n"), ("aud", .array [.text "x"]), ("iss", .text i.name)]
    let alpha : Provider := i.provider "Alpha" "x"
    Token.unverifiedNonce (i.sign (.object claims)) = .ok none ∧
      Preview.ofToken ⟨[alpha]⟩ (i.sign (.object claims)) = .ok ⟨"é\\ \"\n", i.name, alpha⟩ ∧
      Preview.ofToken ⟨[]⟩ (i.sign (.object claims)) = .error (.unknownIssuer i.name) := by
  intro i claims alpha
  have wide : Json.Token.IsWide (-1) := ⟨by decide, by decide⟩
  have signable : Signable claims := {
    distinct := by decide
    exact := ⟨trivial, ⟨⟨wide, trivial, trivial⟩, trivial, trivial⟩, trivial, ⟨trivial, trivial⟩,
      trivial, trivial⟩
    exp := by simp [claims]
    nbf := by simp [claims]
    sub := by simp [claims]
    aud := by
      intro v mem
      obtain rfl : v = .array [.text "x"] := by simpa [claims] using mem
      exact .inr ⟨["x"], rfl⟩ }
  have iss : Says claims "iss" (some i.name) := .text (by simp [claims])
  have email : Says claims "email" (some "é\\ \"\n") := .text (by simp [claims])
  have nonce : Says claims "nonce" none := .null (by simp [claims])
  have visible : ∃ c ∈ "é\\ \"\n".toList, Text.isBlank c = false := ⟨'é', by decide, by decide⟩
  obtain ⟨carried, leads⟩ := read_back i signable iss email nonce
  refine ⟨carried, (leads _ _).mpr ?alpha, (leads _ _).mpr ?nobody⟩
  case alpha =>
    have none : ∀ q ∈ ([] : List Provider), ¬q.Serves i.name := nofun
    exact .provider rfl visible (List.nil_append _).symm rfl none
  case nobody =>
    have none : ∀ q ∈ ([] : List Provider), ¬q.Serves i.name := nofun
    exact .unknownIssuer rfl visible none

end TokenBinding
