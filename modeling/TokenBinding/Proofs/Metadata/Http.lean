import Mathlib.Data.List.Chain
import TokenBinding.Metadata.Http

/-!
# The addresses that a fetch requests

A policy that is held to secure addresses refuses any other before anything is requested
(`get_of_insecure`). Of what is behind a secure address it knows nothing: the client goes on to
wherever it is sent, and where a secure address sends it to one that is not (`Web.Downgrades`), that
one is requested like the rest. This is the only way to come to such an address
(`exists_downgrade_of_mem_get`). Over a web without downgrades only secure addresses are requested,
and what is at the others plays no part (`get_congr`).

What it does not establish. That a web has no downgrades is up to those who answer; nothing here or
in the definitions sees to it. What a client sends beside the address and its name is not covered,
nor is what stands behind a location that the client cannot read.
-/

namespace TokenBinding.Http

variable {web web' : Web} {policy : Policy} {agent url u v : String} {n : Nat}

/-- An address that begins with the secure scheme, letter for letter. -/
def Secure (url : String) : Prop := Policy.secureScheme.toList <+: url.toList

instance (url : String) : Decidable (Secure url) :=
  inferInstanceAs (Decidable (Policy.secureScheme.toList <+: url.toList))

/-- A policy that requires it permits the secure addresses. -/
theorem permits_iff_secure (https : policy.requireHttps = true) :
    policy.permits url = true ↔ Secure url := by
  simp only [Policy.permits, https, Bool.not_true, Bool.false_or, List.isPrefixOf_iff_prefix,
    Secure]

/-- The answer at the first address sends the client on to the second. -/
def Web.LeadsTo (web : Web) (agent u v : String) : Prop :=
  ∃ response, web.answer u agent = .ok response ∧ web.onward? u response = some v

/-- A secure address sends the client on to one that is not. -/
structure Web.Downgrades (web : Web) (agent u v : String) : Prop where
  secure : Secure u
  insecure : ¬Secure v
  leads : web.LeadsTo agent u v

/-- The second web answers at secure addresses as the first one does. -/
structure Web.AgreesWhereSecure (web web' : Web) (agent : String) : Prop where
  answer : ∀ url, Secure url → web'.answer url agent = web.answer url agent
  locate : ∀ url location, Secure url → web'.locate url location = web.locate url location

/-! ## Redirections -/

/-- The address that was asked for is requested first. -/
theorem head?_requested_follow (web : Web) (agent : String) (n : Nat) (url : String) :
    (follow web agent n url).requested.head? = some url := by
  fun_cases follow web agent n url <;> rfl

/-- Each address that is requested after the first is where the one before it leads. -/
theorem isChain_requested_follow (web : Web) (agent : String) (n : Nat) (url : String) :
    (follow web agent n url).requested.IsChain (web.LeadsTo agent) := by
  fun_induction follow web agent n url with
  | case1 => exact .singleton _
  | case2 => exact .singleton _
  | case3 => exact .singleton _
  | case4 url response answer next n onward rest ih =>
    refine List.isChain_cons.mpr ⟨fun v head => ?_, ih⟩
    rw [head?_requested_follow] at head
    obtain rfl := Option.some.inj head
    exact ⟨response, answer, onward⟩

/-- There are no more requests than redirections that are followed, and one. -/
theorem length_requested_follow_le (web : Web) (agent : String) (n : Nat) (url : String) :
    (follow web agent n url).requested.length ≤ n + 1 := by
  fun_induction follow web agent n url with
  | case1 n => exact Nat.le_add_left 1 n
  | case2 n => exact Nat.le_add_left 1 n
  | case3 => exact Nat.le_refl 1
  | case4 url response answer next n onward rest ih =>
    rw [List.length_cons]
    exact Nat.succ_le_succ ih

/-- A client that starts at a secure address comes to another only by a downgrade. The induction is
on the redirections that are left: at each address either the next is secure, or this step is the
downgrade. -/
theorem exists_downgrade_of_mem_follow (secure : Secure url) (insecure : ¬Secure u)
    (mem : u ∈ (follow web agent n url).requested) :
    ∃ v w, v ∈ (follow web agent n url).requested ∧ w ∈ (follow web agent n url).requested ∧
      web.Downgrades agent v w := by
  fun_induction follow web agent n url with
  | case1 => exact absurd (List.mem_singleton.mp mem ▸ secure) insecure
  | case2 => exact absurd (List.mem_singleton.mp mem ▸ secure) insecure
  | case3 => exact absurd (List.mem_singleton.mp mem ▸ secure) insecure
  | case4 url response answer next n onward rest ih =>
    by_cases further : Secure next
    · have later : u ∈ rest.requested := by
        rcases List.mem_cons.mp mem with rfl | later
        · exact absurd secure insecure
        · exact later
      obtain ⟨v, w, memV, memW, downgrade⟩ := ih further later
      exact ⟨v, w, List.mem_cons_of_mem _ memV, List.mem_cons_of_mem _ memW, downgrade⟩
    · have reached : next ∈ rest.requested :=
        List.mem_of_head? (head?_requested_follow web agent n next)
      exact ⟨url, next, List.mem_cons_self, List.mem_cons_of_mem _ reached,
        ⟨secure, further, response, answer, onward⟩⟩

/-- Webs that agree where addresses are secure lead on from there to the same address. -/
theorem onward?_congr (same : web.AgreesWhereSecure web' agent) (secure : Secure url)
    (response : Response) : web'.onward? url response = web.onward? url response := by
  have located : web'.locate url = web.locate url :=
    funext fun location => same.locate url location secure
  rw [Web.onward?, Web.onward?, located]

/-- Where there are no downgrades, a client that starts at a secure address sees nothing of the
others. -/
theorem follow_congr (same : web.AgreesWhereSecure web' agent)
    (upright : ∀ v w, ¬web.Downgrades agent v w) (secure : Secure url) :
    follow web' agent n url = follow web agent n url := by
  fun_induction follow web agent n url with
  | case1 n url reason answer => simp only [follow.eq_def web', same.answer url secure, answer]
  | case2 n url response answer onward =>
    simp only [follow.eq_def web', same.answer url secure, answer, onward?_congr same secure,
      onward]
  | case3 url response answer next onward =>
    simp only [follow.eq_def web', same.answer url secure, answer, onward?_congr same secure,
      onward]
  | case4 url response answer next n onward rest ih =>
    have further : Secure next := by
      by_contra insecure
      exact upright url next ⟨secure, insecure, response, answer, onward⟩
    simp only [follow.eq_def web' agent (n + 1), same.answer url secure, answer,
      onward?_congr same secure, onward, ih further, rest]

/-! ## Fetches -/

section Get

variable {α : Type} {parse? : Bytes → Option α}

/-- A fetch of an address that is not secure is over before anything is requested. -/
theorem get_of_insecure (https : policy.requireHttps = true) (insecure : ¬Secure url) :
    get web policy parse? url = { result := .error (.insecureUrl url) } := by
  have refused : policy.permits url = false :=
    Bool.eq_false_iff.mpr fun permitted => insecure ((permits_iff_secure https).mp permitted)
  simp only [get, refused, Bool.not_false, if_true]

/-- A fetch of a secure address requests what the client does. -/
theorem requested_get (https : policy.requireHttps = true) (secure : Secure url) :
    (get web policy parse? url).requested =
      (follow web userAgent maxRedirections url).requested := by
  have permitted : policy.permits url = true := (permits_iff_secure https).mpr secure
  simp only [get, permitted, Bool.not_true, Bool.false_eq_true, if_false]

/-- How a fetch of an address comes to its requests. -/
structure RequestedFor (web : Web) (url : String) (requested : List String) : Prop where
  /-- An address that is not secure is not requested, and nothing instead of it. -/
  refused : ¬Secure url → requested = []
  /-- A secure address is the first to be requested. -/
  first : Secure url → requested.head? = some url
  /-- Each other is where the one before it leads. -/
  led : requested.IsChain (web.LeadsTo userAgent)
  bounded : requested.length ≤ maxRedirections + 1

/-- What is requested for an address starts at it, if it is secure, and is nothing if it is not. -/
theorem requestedFor_get (https : policy.requireHttps = true) :
    RequestedFor web url (get web policy parse? url).requested := by
  by_cases secure : Secure url
  · rw [requested_get https secure]
    exact ⟨fun insecure => absurd secure insecure, fun _ => head?_requested_follow ..,
      isChain_requested_follow .., length_requested_follow_le ..⟩
  · rw [get_of_insecure https secure]
    exact ⟨fun _ => rfl, fun holds => absurd holds secure, .nil, Nat.zero_le _⟩

/-- A fetch that requests an address which is not secure was sent there, on the way or at last, by
one that is. -/
theorem exists_downgrade_of_mem_get (https : policy.requireHttps = true) (insecure : ¬Secure u)
    (mem : u ∈ (get web policy parse? url).requested) :
    ∃ v w, v ∈ (get web policy parse? url).requested ∧
      w ∈ (get web policy parse? url).requested ∧ web.Downgrades userAgent v w := by
  by_cases secure : Secure url
  · rw [requested_get https secure] at mem ⊢
    exact exists_downgrade_of_mem_follow secure insecure mem
  · rw [get_of_insecure https secure] at mem
    cases mem

/-- Where no secure address leads to one that is not, it makes no difference what is found at those
that are not. Nobody on the way to an address without security can change what comes of a fetch. -/
theorem get_congr (https : policy.requireHttps = true)
    (same : web.AgreesWhereSecure web' userAgent)
    (upright : ∀ v w, ¬web.Downgrades userAgent v w) (url : String) :
    get web' policy parse? url = get web policy parse? url := by
  by_cases secure : Secure url
  · rw [get, get, follow_congr same upright secure]
  · rw [get_of_insecure https secure, get_of_insecure https secure]

end Get

/-- What is at addresses that are not secure plays no part, if no secure one leads there. -/
theorem resolver_congr (https : policy.requireHttps = true)
    (same : web.AgreesWhereSecure web' userAgent)
    (upright : ∀ v w, ¬web.Downgrades userAgent v w) :
    resolver web' policy = resolver web policy := by
  have documents : getDocument web' policy = getDocument web policy :=
    funext (get_congr https same upright)
  have keys : getKeys web' policy = getKeys web policy := funext (get_congr https same upright)
  rw [resolver, resolver, documents, keys]

end TokenBinding.Http
