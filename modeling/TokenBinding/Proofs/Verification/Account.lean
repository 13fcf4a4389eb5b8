import TokenBinding.Proofs.Conversation
import TokenBinding.Proofs.Verification.Reporting

/-!
# What the log of a pass accounts for

A record of a pass announces a phase, or is about a token, which it names by its place in the
bundle. For each token there is a last word: it is dropped, it verified, or it failed verification.
Places are given out before the first token is dropped, and tokens are dropped in three places and
judged in a fourth; `Accounts` says of a log that nevertheless every token has one last word, and
that the numbers of last words of each sort are those of the report.

`MayReport.accounts` shows it for every pass that comes to a report on tokens, in whatever order the
failures of the fetches arrive: a settled route has one of a preview event, a fetch event and a
token to check (`perm_lastWords`), and the places of the routes are those of the bundle.

What it does not establish. The log is taken as the list of its records. How they are filtered and
written out is left to whoever subscribes to them.

Main statement: `run_accounts`.
-/

namespace TokenBinding

namespace Log.Record

/-- The value of a field. -/
def field? (r : Record) (name : String) : Option FieldValue := r.fields.lookup name

/-- The phase that the record announces. -/
def phase? (r : Record) : Option String :=
  match r.field? "phase" with
  | some (.text name) => some name
  | _ => none

/-- The token that the record is about. -/
def token? (r : Record) : Option Nat :=
  match r.field? "token" with
  | some (.count token) => some token
  | _ => none

end Log.Record

namespace Verification

open Log (Record)

/-! ## Records -/

/-- The messages of a token that is dropped. -/
def droppingMessages : List String :=
  ["dropping token", "dropping token: metadata unavailable",
    "dropping token: signing keys unavailable"]

/-- The message of a token that verified. -/
def verifiedMessage : String := "token verified"

/-- The message of a token that did not. -/
def failedMessage : String := "token failed verification"

/-- The messages that are the last word on a token. -/
def terminalMessages : List String := droppingMessages ++ [verifiedMessage, failedMessage]

/-- A log goes through the phases in order, has one last word on each of so many tokens, and agrees
with the report in the numbers of each sort, which it also gives at the end. -/
structure Accounts (tokens : Nat) (report : Report) (log : List Record) : Prop where
  phases : log.filterMap Record.phase? =
    ["parsing_bundle", "bound_to_fingerprint", "resolving_providers", "verifying_tokens", "done"]
  lastWords : ((log.filter (·.message ∈ terminalMessages)).map Record.token?).Perm
    ((List.range tokens).map some)
  dropped : log.countP (·.message ∈ droppingMessages) = report.unevaluated
  verified : log.countP (·.message = verifiedMessage) = report.verified.length
  failed : log.countP (·.message = failedMessage) = report.outcomes.countP (!·.verified)
  totals : log.filter (·.level = .info) =
    [⟨.info, "verification pass complete", [("verified", .count report.verified.length),
      ("evaluated", .count report.outcomes.length), ("unevaluated", .count report.unevaluated)]⟩]

/-! ## Events -/

namespace Event

/-- What an event is to a token, or to the pass. -/
inductive Kind where
  | phase
  | dropped
  | verified
  | failed
  | totals
  | remark
  deriving DecidableEq

def kind : Event → Kind
  | parsingBundle => .phase
  | malformedBundle _ => .remark
  | noTokens => .phase
  | boundToFingerprint _ => .phase
  | unroutable _ _ => .dropped
  | resolvingProviders _ => .phase
  | noMetadata _ _ _ => .dropped
  | noKeys _ _ _ => .dropped
  | verifyingTokens _ => .phase
  | verified _ _ => .verified
  | failed _ _ _ => .failed
  | complete _ _ _ => .totals
  | done => .phase

/-- The phase that an event announces. -/
def phaseName? : Event → Option String
  | parsingBundle => some "parsing_bundle"
  | noTokens => some "done"
  | boundToFingerprint _ => some "bound_to_fingerprint"
  | resolvingProviders _ => some "resolving_providers"
  | verifyingTokens _ => some "verifying_tokens"
  | done => some "done"
  | _ => none

/-- The token on which an event is the last word. -/
def lastWord? : Event → Option Nat
  | unroutable token _ => some token
  | noMetadata token _ _ => some token
  | noKeys token _ _ => some token
  | verified token _ => some token
  | failed token _ _ => some token
  | _ => none

variable (x : Event)

/-- A phase can be read off the record of an event, or there is none. -/
theorem phase?_record : x.record.phase? = x.phaseName? := by
  cases x <;> rfl

/-- A message of the dropping kind is written of an event of that kind, and of no other. This and
the next two are how a log is counted: by the kinds of its events. -/
theorem mem_droppingMessages_iff : x.record.message ∈ droppingMessages ↔ x.kind = .dropped := by
  cases x <;> simp [record, kind, droppingMessages, phase]

/-- The same holds of the message for a token that verified. -/
theorem message_eq_verifiedMessage_iff :
    x.record.message = verifiedMessage ↔ x.kind = .verified := by
  cases x <;> simp [record, kind, verifiedMessage, phase]

/-- It also holds of the message for a token that failed. -/
theorem message_eq_failedMessage_iff : x.record.message = failedMessage ↔ x.kind = .failed := by
  cases x <;> simp [record, kind, failedMessage, phase]

/-- Only the totals are written at this level. -/
theorem level_eq_info_iff : x.record.level = .info ↔ x.kind = .totals := by
  cases x <;> simp [record, kind, phase]

/-- The last word on a token is of one of three kinds. -/
theorem mem_terminalMessages_iff : x.record.message ∈ terminalMessages ↔
    x.kind = .dropped ∨ x.kind = .verified ∨ x.kind = .failed := by
  rw [terminalMessages, List.mem_append, mem_droppingMessages_iff, List.mem_cons,
    List.mem_singleton, message_eq_verifiedMessage_iff, message_eq_failedMessage_iff]

variable {x}

/-- The record of a last word names the token that it is the last word on. -/
theorem token?_record (h : x.record.message ∈ terminalMessages) :
    x.record.token? = x.lastWord? := by
  rw [mem_terminalMessages_iff] at h
  cases x <;> simp [kind] at h <;> rfl

theorem phaseName?_eq_none (h : x.kind ≠ .phase) : x.phaseName? = none := by
  cases x <;> first | rfl | exact absurd rfl h

/-- Records that are told by the kind of their events. -/
theorem filter_records {p : Record → Prop} [DecidablePred p] {k : Kind}
    (told : ∀ x : Event, p x.record ↔ x.kind = k) (xs : List Event) :
    (xs.map record).filter (p ·) = (xs.filter (·.kind = k)).map record := by
  have same : (fun r => decide (p r)) ∘ record = fun x : Event => decide (x.kind = k) :=
    funext fun x => decide_eq_decide.mpr (told x)
  rw [List.filter_map, same]

/-- Such records are counted by the kind of their events. -/
theorem countP_records {p : Record → Prop} [DecidablePred p] {k : Kind}
    (told : ∀ x : Event, p x.record ↔ x.kind = k) (xs : List Event) :
    (xs.map record).countP (p ·) = (xs.filter (·.kind = k)).length := by
  rw [List.countP_eq_length_filter, filter_records told, List.length_map]

/-- The phases of a log are those of its events, in order. -/
theorem phases_records (xs : List Event) :
    (xs.map record).filterMap Record.phase? =
      (xs.filter (·.kind = .phase)).filterMap phaseName? := by
  have same : Record.phase? ∘ record = phaseName? := funext phase?_record
  rw [List.filterMap_map, same, List.filterMap_filter]
  congr 1
  funext x
  by_cases phase : x.kind = .phase
  · simp only [phase, decide_true, if_true]
  · simp only [phase, decide_false, Bool.false_eq_true, if_false, phaseName?_eq_none, ne_eq,
      not_false_eq_true]

/-- The tokens that a log has last words on are those that its events have. -/
theorem lastWords_records (xs : List Event) :
    ((xs.map record).filter (·.message ∈ terminalMessages)).map Record.token? =
      (xs.filter (·.record.message ∈ terminalMessages)).map lastWord? := by
  rw [List.filter_map, List.map_map]
  refine List.map_congr_left fun x mem => ?_
  exact token?_record (of_decide_eq_true (List.mem_filter.mp mem).2)

end Event

namespace Checked

/-- The report of a token that was checked says what came of it. -/
theorem kind_event (c : Checked) :
    c.event.kind = if c.outcome.verified then .verified else .failed := by
  obtain ⟨token, result⟩ := c
  cases result <;> rfl

/-- The report of a token that was checked is the last word on it. -/
theorem lastWord?_event (c : Checked) : c.event.lastWord? = some c.token.index := by
  obtain ⟨token, result⟩ := c
  cases result <;> rfl

end Checked

/-! ## Logs -/

section Log

variable {n routed : Nat} {early late : List Event} {checked : List Checked} {report : Report}

/-- The events of a pass that drops tokens early and late, and then checks the others. -/
def eventsOf (n routed : Nat) (early late : List Event) (checked : List Checked)
    (report : Report) : List Event :=
  [.parsingBundle, .boundToFingerprint n] ++ (early ++ .resolvingProviders routed :: late) ++
    checkingEvents checked report

/-- Events of one kind are kept whole by a filter for that kind, and dropped by any other. -/
theorem filter_kind_of_forall {xs : List Event} {k : Event.Kind} (all : ∀ x ∈ xs, x.kind = k)
    (k' : Event.Kind) : xs.filter (·.kind = k') = if k = k' then xs else [] := by
  split
  · next same => exact List.filter_eq_self.mpr fun x mem => decide_eq_true ((all x mem).trans same)
  · next other =>
    refine List.filter_eq_nil_iff.mpr fun x mem => ?_
    rw [all x mem, decide_eq_true_eq]
    exact other

/-- The reports of checked tokens are of two kinds, by what came of the check. -/
theorem filter_kind_event (checked : List Checked) (k : Event.Kind) :
    (checked.map Checked.event).filter (·.kind = k) =
      match k with
      | .verified => (checked.filter (·.outcome.verified)).map Checked.event
      | .failed => (checked.filter (!·.outcome.verified)).map Checked.event
      | _ => [] := by
  induction checked with
  | nil => cases k <;> rfl
  | cons c rest ih =>
    rw [List.map_cons, List.filter_cons, ih, c.kind_event]
    cases verified : c.outcome.verified <;> cases k <;> simp [verified]

/-- The events of each kind, in order. -/
theorem filter_kind_eventsOf (n routed : Nat) (early_dropped : ∀ x ∈ early, x.kind = .dropped)
    (late_dropped : ∀ x ∈ late, x.kind = .dropped) (checked : List Checked) (report : Report)
    (k : Event.Kind) :
    (eventsOf n routed early late checked report).filter (·.kind = k) =
      match k with
      | .phase => [.parsingBundle, .boundToFingerprint n, .resolvingProviders routed,
          .verifyingTokens checked.length, .done]
      | .dropped => early ++ late
      | .verified => (checked.filter (·.outcome.verified)).map Checked.event
      | .failed => (checked.filter (!·.outcome.verified)).map Checked.event
      | .totals =>
        [.complete report.verified.length report.outcomes.length report.unevaluated]
      | .remark => [] := by
  simp only [eventsOf, checkingEvents, List.filter_append, List.filter_cons, List.filter_nil,
    filter_kind_of_forall early_dropped, filter_kind_of_forall late_dropped, filter_kind_event]
  cases k <;> simp [Event.kind]

/-- The last words of a pass are those on the tokens that it dropped early and late, and then those
on the tokens that it checked. -/
theorem filter_terminal_eventsOf (early_dropped : ∀ x ∈ early, x.kind = .dropped)
    (late_dropped : ∀ x ∈ late, x.kind = .dropped) :
    (eventsOf n routed early late checked report).filter (·.record.message ∈ terminalMessages) =
      early ++ (late ++ checked.map Checked.event) := by
  have same : (fun x : Event => decide (x.record.message ∈ terminalMessages)) =
      fun x => decide (x.kind = .dropped ∨ x.kind = .verified ∨ x.kind = .failed) :=
    funext fun x => decide_eq_decide.mpr x.mem_terminalMessages_iff
  have judged : ∀ x ∈ checked.map Checked.event, x.kind = .verified ∨ x.kind = .failed := by
    intro x mem
    obtain ⟨c, -, rfl⟩ := List.mem_map.mp mem
    rw [c.kind_event]
    split
    · exact .inl rfl
    · exact .inr rfl
  have keep {xs : List Event}
      (all : ∀ x ∈ xs, x.kind = .dropped ∨ x.kind = .verified ∨ x.kind = .failed) :
      xs.filter (fun x => decide (x.kind = .dropped ∨ x.kind = .verified ∨ x.kind = .failed)) =
        xs :=
    List.filter_eq_self.mpr fun x mem => decide_eq_true (all x mem)
  simp only [same, eventsOf, checkingEvents, List.filter_append, List.filter_cons,
    List.filter_nil, keep fun x mem => .inl (early_dropped x mem),
    keep fun x mem => .inl (late_dropped x mem), keep fun x mem => .inr (judged x mem)]
  simp [Event.kind]

/-- If each token is dropped early, dropped late or checked, the log accounts for all of them. The
last hypothesis counts places: those of the three lists together are the places of the bundle, each
once. -/
theorem accounts_eventsOf (early_dropped : ∀ x ∈ early, x.kind = .dropped)
    (late_dropped : ∀ x ∈ late, x.kind = .dropped) (reports : report = reportOf n checked)
    (lastWords : (early.map Event.lastWord? ++ (late.map Event.lastWord? ++
      checked.map fun c => some c.token.index)).Perm ((List.range n).map some)) :
    Accounts n report ((eventsOf n routed early late checked report).map Event.record) := by
  have kinds := filter_kind_eventsOf n routed early_dropped late_dropped checked report
  have placed : early.length + (late.length + checked.length) = n := by
    simpa only [List.length_append, List.length_map, List.length_range] using lastWords.length_eq
  have judged (p : Outcome → Bool) :
      (checked.filter (p ·.outcome)).length = report.outcomes.countP p := by
    rw [reports, reportOf, List.countP_map, List.countP_eq_length_filter]
    rfl
  constructor
  · rw [Event.phases_records, kinds]
    rfl
  · rw [Event.lastWords_records, filter_terminal_eventsOf early_dropped late_dropped]
    simpa only [List.map_append, List.map_map, Function.comp_def, Checked.lastWord?_event]
      using lastWords
  · rw [Event.countP_records Event.mem_droppingMessages_iff, kinds, reports, reportOf]
    show (early ++ late).length = n - checked.length
    rw [List.length_append]
    omega
  · rw [Event.countP_records Event.message_eq_verifiedMessage_iff, kinds, Report.verified,
      ← List.countP_eq_length_filter, ← judged, List.length_map]
  · rw [Event.countP_records Event.message_eq_failedMessage_iff, kinds, ← judged, List.length_map]
  · rw [Event.filter_records Event.level_eq_info_iff, kinds]
    rfl

end Log

/-! ## Routes -/

/-- A settled route was reported at its preview or at a fetch, or its token is checked. So the three
lists together are the places of the bundle, in some order. -/
theorem perm_lastWords (routes : List Route) :
    ((routes.filterMap Route.previewEvent?).map Event.lastWord? ++
      ((routes.filterMap Route.fetchEvent?).map Event.lastWord? ++
        (routes.filterMap Route.resolved?).map fun t => some t.index)).Perm
      ((routes.map Route.index).map some) := by
  induction routes with
  | nil => exact .nil
  | cons r rest ih =>
    cases r with
    | unroutable i cause => exact ih.cons _
    | noMetadata i preview cause => exact List.perm_middle.trans (ih.cons _)
    | noKeys i preview metadata cause => exact List.perm_middle.trans (ih.cons _)
    | resolved token =>
      exact ((List.perm_middle.append_left _).trans List.perm_middle).trans (ih.cons _)

/-- Every token that is handed to the checks is checked, in order. -/
theorem map_token_checkAll (s : RoutedToken.Setting) (b : Binder) (rs : List RoutedToken) :
    (checkAll s b rs).1.map Checked.token = rs := by
  induction rs generalizing b with
  | nil => rfl
  | cons r rest ih => exact congrArg (r :: ·) (ih _)

/-- All that is told when the previews are made is that tokens are dropped. -/
theorem kind_of_mem_previews {registry : Registry} {tokens : List String} :
    ∀ x ∈ (tokens.mapIdx (previewEvent? registry)).filterMap id, x.kind = .dropped := by
  intro x mem
  obtain ⟨_, among, here⟩ := List.mem_filterMap.mp mem
  obtain ⟨i, bound, rfl⟩ := List.mem_mapIdx.mp among
  rw [id, previewEvent?] at here
  split at here
  · cases here
    rfl
  · cases here

/-- What is told while tokens are on their way is that one of them is dropped. Verdicts come later,
when all of them have arrived. -/
theorem Told.kind_of_mem {registry : Registry} {answers : List Effect → Resolver}
    {tokens : List String} {stages : List Stage} {asked : List Effect} {told : List Event}
    (way : Told registry answers tokens stages asked told) : ∀ x ∈ told, x.kind = .dropped := by
  intro x mem
  obtain ⟨s, -, here⟩ := List.mem_flatMap.mp (way.perm.mem_iff.mp mem)
  cases s with
  | settled route =>
    cases route with
    | noMetadata i preview cause =>
      obtain rfl := List.mem_singleton.mp here
      rfl
    | noKeys i preview metadata cause =>
      obtain rfl := List.mem_singleton.mp here
      rfl
    | unroutable i cause => cases here
    | resolved token => cases here
  | previewed preview => cases here
  | asked preview => cases here
  | documented preview metadata => cases here

/-! ## Passes -/

namespace Engine

variable {e : Engine} {answers : List Effect → Resolver} {b : Binder} {q : Request}
  {result : Except VerifyError Report} {report : Report} {cause : VerifyError} {bundle : Bundle}
  {events : List Event}

/-- A report on tokens is accounted for, in whatever order the answers arrived. -/
theorem MayReport.accounts (h : e.MayReport answers b q (.ok report) events)
    (parsed : Bundle.parse q.wire = .ok bundle) (tokens : bundle.tokens ≠ []) :
    Accounts bundle.tokens.length report (events.map Event.record) := by
  cases h with
  | malformed malformed => cases malformed.symm.trans parsed
  | noTokens parsed' none =>
    cases parsed'.symm.trans parsed
    exact absurd none tokens
  | @complete _ f routes asked told checked _ parsed' _ print way checks reports =>
    cases parsed'.symm.trans parsed
    have judged : checked.map (fun c => some c.token.index) =
        (routes.filterMap Route.resolved?).map fun t => some t.index := by
      rw [← map_token_checkAll _ b (routes.filterMap Route.resolved?), ← checks, List.map_map]
      rfl
    refine accounts_eventsOf kind_of_mem_previews way.kind_of_mem reports ?_
    rw [judged, ← way.map_index, ← way.filterMap_previewEvent?]
    have arrived := (way.perm_filterMap_fetchEvent?).map Event.lastWord?
    exact ((arrived.append_right _).append_left _).trans (perm_lastWords routes)

/-- A pass that is given up has not come to the checks. -/
theorem MayReport.phases_of_error (h : e.MayReport answers b q (.error cause) events) :
    (events.map Event.record).filterMap Record.phase? <+:
      ["parsing_bundle", "bound_to_fingerprint", "resolving_providers"] := by
  rw [Event.phases_records]
  cases h with
  | unrouted parsed tokens missing => exact ⟨["resolving_providers"], rfl⟩
  | givenUp parsed tokens missing way =>
    simp only [routingLog, List.filter_append, List.filter_cons, List.filter_nil,
      filter_kind_of_forall kind_of_mem_previews, filter_kind_of_forall way.kind_of_mem]
    exact List.prefix_rfl

/-- A pass over no tokens is over at once. -/
theorem MayReport.idle (h : e.MayReport answers b q result events)
    (none : ∀ bundle, Bundle.parse q.wire = .ok bundle → bundle.tokens = []) :
    result = .ok {} ∧
      (events.map Event.record).filterMap Record.phase? = ["parsing_bundle", "done"] ∧
      ∀ r ∈ events.map Event.record, r.message ∉ terminalMessages ∧ r.level ≠ .info := by
  have quiet {events : List Event}
      (h : ∀ x ∈ events, x.kind = .phase ∨ x.kind = .remark) :
      ∀ r ∈ events.map Event.record, r.message ∉ terminalMessages ∧ r.level ≠ .info := by
    intro r mem
    obtain ⟨x, among, rfl⟩ := List.mem_map.mp mem
    rw [Event.mem_terminalMessages_iff, ne_eq, Event.level_eq_info_iff]
    rcases h x among with kind | kind <;> simp [kind]
  cases h with
  | malformed parsed =>
    refine ⟨rfl, rfl, quiet ?_⟩
    simp [Event.kind]
  | noTokens parsed empty =>
    refine ⟨rfl, rfl, quiet ?_⟩
    simp [Event.kind]
  | unrouted parsed tokens => exact absurd (none _ parsed) tokens
  | givenUp parsed tokens => exact absurd (none _ parsed) tokens
  | complete parsed tokens => exact absurd (none _ parsed) tokens

/-- A pass over a bundle with tokens that comes to a report goes through the five phases in order,
and its log has one last word on each token: as many tokens are dropped as the report counts as
unevaluated, as many verified and as many failed as it has outcomes of either sort, and the totals
at the end say so. A text that is no bundle or has no tokens is done with at once, and a pass that
is given up comes neither to the checks nor to the end. All of this holds in whatever order the
answers to the requests arrive, and the order in which a pass is written down is one of them. -/
theorem run_accounts (e : Engine) (b : Binder) (q : Request) :
    e.MayReport (fun _ => e.resolver) b q (e.run b q).result (e.run b q).events ∧
      ∀ answers result events, e.MayReport answers b q result events →
        (∀ bundle report, Bundle.parse q.wire = .ok bundle → bundle.tokens ≠ [] →
          result = .ok report →
            Accounts bundle.tokens.length report (events.map Event.record)) ∧
        ((∀ bundle, Bundle.parse q.wire = .ok bundle → bundle.tokens = []) →
          result = .ok {} ∧
            (events.map Event.record).filterMap Record.phase? = ["parsing_bundle", "done"] ∧
            ∀ r ∈ events.map Event.record, r.message ∉ terminalMessages ∧ r.level ≠ .info) ∧
        ∀ cause, result = .error cause →
          (events.map Event.record).filterMap Record.phase? <+:
            ["parsing_bundle", "bound_to_fingerprint", "resolving_providers"] := by
  refine ⟨run_mayReport e b q, fun answers result events h => ⟨?_, h.idle, ?_⟩⟩
  · rintro bundle report parsed tokens rfl
    exact h.accounts parsed tokens
  · rintro cause rfl
    exact h.phases_of_error

/-- Five tokens can be settled from the last to the first, and failures are told in that order. The
tokens before the last of them have been waiting all the while. -/
theorem told_lastFirst (registry : Registry) (resolver : Resolver) {t₀ t₁ t₂ t₃ t₄ : String}
    {r₀ r₁ r₂ r₃ r₄ : Route} (way₀ : route registry resolver 0 t₀ = r₀)
    (way₁ : route registry resolver 1 t₁ = r₁) (way₂ : route registry resolver 2 t₂ = r₂)
    (way₃ : route registry resolver 3 t₃ = r₃) (way₄ : route registry resolver 4 t₄ = r₄) :
    ∃ asked, Told registry (fun _ => resolver) [t₀, t₁, t₂, t₃, t₄]
      ([r₀, r₁, r₂, r₃, r₄].map .settled) asked
      ([r₄, r₃, r₂, r₁, r₀].filterMap Route.fetchEvent?) := by
  have begun : Told registry (fun _ => resolver) [t₀, t₁, t₂, t₃, t₄] _ [] [] := .start
  have last := ((begun.settle (i := 4) rfl rfl).settle (i := 3) rfl rfl).settle (i := 2) rfl rfl
  have first := (last.settle (i := 1) rfl rfl).settle (i := 0) rfl rfl
  rw [way₀, way₁, way₂, way₃, way₄] at first
  rw [List.filterMap_eq_flatMap_toList]
  simp only [List.flatMap_cons, List.flatMap_nil, List.append_nil]
  simp only [List.nil_append, List.append_assoc] at first
  exact ⟨_, first⟩

open Authorization.Simulated in
/-- Of five tokens the first and the last are dropped for want of a document, the last of them
first, and the second has no preview. Of the two that are left the one of Alpha verifies; for the
one of Beta the key set of Alpha was fetched, and it fails. The log accounts for all five. -/
theorem run_accounts_outOfOrder :
    let v := Conversation.aliceToBob .sha512
    let alpha : Registration := Conversation.alphaAndBeta[0]
    let beta : Registration := Conversation.alphaAndBeta[1]
    let offline := fun url : String => MetadataError.status url 503
    let e : Engine := { v.engine v.recipientView .none (.ofSeconds 60) with
      resolver := {
        document := fun i url => if i = 0 ∨ i = 4 then .error (offline url)
          else (resolverOf v.members).document i url
        keys := fun _ _ => .ok alpha.issuer.keySet } }
    let salt : Salt := ⟨List.replicate 32 9⟩
    let n : CompoundNonce := ⟨⟨List.replicate 32 1, List.length_replicate⟩,
      stretch .sha512 v.fingerprint.bytes salt.bytes⟩
    let ofAlpha := issuedToken alpha.entry 1700000000 alpha.clientId n.text
    let ofBeta := issuedToken beta.entry 1700000000 beta.clientId n.text
    let tokens := [ofAlpha, "x", ofAlpha, ofBeta, ofBeta]
    let q : Request := ⟨Bundle.toWire ⟨salt, tokens⟩, ⟨"alice"⟩, .verifier, .ignore⟩
    let told : List Event :=
      [.noMetadata 4 "Beta" (offline beta.provider.discoveryUrl),
        .noMetadata 0 "Alpha" (offline alpha.provider.discoveryUrl)]
    let checked : List Checked := [⟨alpha.routed 2 ofAlpha, .ok ()⟩,
      ⟨{ beta.routed 3 ofBeta with keys := alpha.issuer.keySet }, .error .keyNotFound⟩]
    let report : Report := ⟨[alpha.outcome,
      { beta.outcome with verified := false, failure? := some .keyNotFound }], 3⟩
    let events := [.parsingBundle, .boundToFingerprint 5] ++ routingLog e.registry tokens told ++
      checkingEvents checked report
    e.MayReport (fun _ => e.resolver) {} q (.ok report) events ∧
      Accounts 5 report (events.map Event.record) := by
  intro v alpha beta offline e salt n ofAlpha ofBeta tokens q told checked report events
  have clock : FitsClock 1700000000 := by decide
  have x : Bundle.Carried "x" := ⟨by decide, by decide, by decide, by decide⟩
  have carriedAlpha : Bundle.Carried ofAlpha := carried_issuedToken _ _ _ _
  have carriedBeta : Bundle.Carried ofBeta := carried_issuedToken _ _ _ _
  have carried : ∀ t ∈ tokens, Bundle.Carried t := by
    simp only [tokens, List.forall_mem_cons, carriedAlpha, carriedBeta, x, true_and]
    exact List.forall_mem_nil _
  have parsed : Bundle.parse q.wire = .ok ⟨salt, tokens⟩ := Bundle.parse_toWire carried
  have print : e.localFingerprint q.peer q.role = .ok v.fingerprint :=
    v.localFingerprint_recipient .none (.ofSeconds 60)
  have memberAlpha : alpha ∈ v.members := List.mem_cons_self
  have memberBeta : beta ∈ v.members := List.mem_cons_of_mem _ List.mem_cons_self
  have document (r : Registration) (member : r ∈ v.members) {i : Nat} (there : ¬(i = 0 ∨ i = 4)) :
      e.resolver.document i r.provider.discoveryUrl = .ok r.issuer.metadata :=
    (if_neg there).trans (document_resolverOf v.family member i)
  obtain ⟨cause, refused⟩ : ∃ cause, Preview.ofToken e.registry "x" = .error cause := ⟨_, rfl⟩
  have unroutable : route e.registry e.resolver 1 "x" = .unroutable 1 cause := by
    simp only [route, refused]
  obtain ⟨asked, way⟩ := told_lastFirst e.registry e.resolver
    (route_issued_of_error v.family clock memberAlpha rfl n.text) unroutable
    (route_issued_of_answers v.family clock memberAlpha (document alpha memberAlpha (by decide))
      rfl n.text)
    (route_issued_of_answers v.family clock memberBeta (document beta memberBeta (by decide))
      rfl n.text)
    (route_issued_of_error v.family clock memberBeta rfl n.text)
  -- The checks of the two that were routed.
  let setting := e.setting q salt v.fingerprint
  have bound : n.hash = stretch setting.digest setting.fingerprint.bytes setting.salt.bytes := rfl
  have good : (alpha.routed 2 ofAlpha).verdict setting = .ok () :=
    verdict_issued v.family clock memberAlpha rfl bound 2
  have foreign : RoutedToken.verdict setting
      { beta.routed 3 ofBeta with keys := alpha.issuer.keySet } = .error .keyNotFound :=
    verdict_of_foreignKeys rfl (by decide)
  have checks : checked = (checkAll setting {}
      [alpha.routed 2 ofAlpha, { beta.routed 3 ofBeta with keys := alpha.issuer.keySet }]).1 := by
    rw [(checkAll_eq_verdicts .empty _).1, List.map_cons, List.map_singleton, good, foreign]
  have reported : e.MayReport (fun _ => e.resolver) {} q (.ok report) events :=
    .complete parsed (List.cons_ne_nil _ _) print way checks rfl
  obtain ⟨-, accounted⟩ := run_accounts e {} q
  exact ⟨reported, (accounted _ _ _ reported).1 _ _ parsed (List.cons_ne_nil _ _) rfl⟩

end Engine

end Verification

end TokenBinding
