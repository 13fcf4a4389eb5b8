import Mathlib.Algebra.GroupWithZero.Nat
import TokenBinding.CommandLine.Run
import TokenBinding.Proofs.Text.Lines
import TokenBinding.Proofs.Verification.Foreign
import TokenBinding.Proofs.Verification.Verified

/-!
# The lines of a report

A report is printed with one line for each outcome, which begins with a success mark if the token
verified. The identity in it is printed as the token claims it, and the name of the provider as the
configuration has it. Whoever reads the output sees one line more for every line feed in them, and
one success mark more for every mark behind a line feed (`shown_of_run`). All else that is printed
is on one line: the wording of a failure (`VerificationFailure.oneLine_message`) and the notices.

So the output can be relied on only where no identity has a line feed in it, and nothing keeps a
token from claiming one that has. A token that nobody verified can print a line that is, letter for
letter, the line of a token that did (`shown_forged`).

What it does not establish. Only line feeds are counted. What a terminal makes of other control
characters in an identity is its own affair.

Main statement: `shown_of_run`.
-/

namespace TokenBinding

open Text (OneLine begins innerStarts lineFeed lines oneLine_append oneLine_toString segments)

/-! ## Wordings -/

namespace Text.Base64.Error

/-- What is said of a base64 text that is refused is one line: it has only numbers in it. -/
theorem oneLine_message (e : Error) : OneLine e.message := by
  cases e with
  | invalidByte offset symbol =>
    show OneLine
      ("Invalid symbol " ++ toString symbol.toNat ++ ", offset " ++ toString offset ++ ".")
    simp only [oneLine_append, oneLine_toString, and_true]
    decide
  | invalidLength length =>
    show OneLine ("Invalid input length: " ++ toString length)
    simp only [oneLine_append, oneLine_toString, and_true]
    decide
  | invalidLastSymbol offset symbol =>
    show OneLine
      ("Invalid last symbol " ++ toString symbol.toNat ++ ", offset " ++ toString offset ++ ".")
    simp only [oneLine_append, oneLine_toString, and_true]
    decide
  | invalidPadding => decide

/-- The names are constants without a line feed. -/
theorem oneLine_name (e : Error) : OneLine e.name := by
  cases e with
  | invalidByte offset symbol =>
    show OneLine ("InvalidByte(" ++ toString offset ++ ", " ++ toString symbol.toNat ++ ")")
    simp only [oneLine_append, oneLine_toString, and_true]
    decide
  | invalidLength length =>
    show OneLine ("InvalidLength(" ++ toString length ++ ")")
    simp only [oneLine_append, oneLine_toString, and_true]
    decide
  | invalidLastSymbol offset symbol =>
    show OneLine ("InvalidLastSymbol(" ++ toString offset ++ ", " ++ toString symbol.toNat ++ ")")
    simp only [oneLine_append, oneLine_toString, and_true]
    decide
  | invalidPadding => decide

end Text.Base64.Error

/-- A token that cannot be read is reported in one line, whatever stands in it: the reasons quote
numbers and no text of the token. -/
theorem Token.ReadError.oneLine_message (e : ReadError) : OneLine e.message := by
  cases e with
  | base64 cause =>
    have front : OneLine "Base64 error: " := by decide
    exact oneLine_append.mpr ⟨front, cause.oneLine_message⟩
  | _ => decide

/-- So is a signature that cannot be checked. -/
theorem Token.SignatureError.oneLine_message (e : SignatureError) : OneLine e.message := by
  cases e with
  | base64 cause =>
    have front : OneLine "Base64(" := by decide
    have back : OneLine ")" := by decide
    exact oneLine_append.mpr ⟨oneLine_append.mpr ⟨front, cause.oneLine_name⟩, back⟩
  | _ => decide

/-- So is anything else about a signature. -/
theorem SignatureFault.oneLine_message (fault : SignatureFault) : OneLine fault.message := by
  cases fault with
  | header cause => exact cause.oneLine_message
  | key cause => exact (Token.ReadError.base64 cause).oneLine_message
  | check cause => exact cause.oneLine_message
  | payload cause => exact (Token.SignatureError.base64 cause).oneLine_message

/-- What is said of a failure is on one line. -/
theorem VerificationFailure.oneLine_message (f : VerificationFailure) : OneLine f.message := by
  cases f with
  | signature fault =>
    have front : OneLine "Signature check failed: " := by decide
    exact oneLine_append.mpr ⟨front, fault.oneLine_message⟩
  | _ => decide

/-! ## Outcomes -/

/-- What stands in front of the line of a token that verified. -/
def successMark : Char := '✅'

namespace Outcome

/-- The line feeds in what is printed of a token and of its provider. -/
def lineFeeds (o : Outcome) : Nat :=
  o.claimedIdentity.toList.count lineFeed + o.provider.displayId.toList.count lineFeed

/-- How often there is a success mark behind one of them. -/
def forgedMarks (o : Outcome) : Nat :=
  innerStarts successMark o.claimedIdentity.toList +
    innerStarts successMark o.provider.displayId.toList

/-- Nothing that is printed of the token or of its provider breaks the line. -/
structure Flat (o : Outcome) : Prop where
  identity : OneLine o.claimedIdentity
  provider : OneLine o.provider.displayId

/-- An outcome without a line feed in its names is flat. -/
theorem lineFeeds_eq_zero_iff (o : Outcome) : o.lineFeeds = 0 ↔ o.Flat := by
  rw [lineFeeds, Nat.add_eq_zero_iff, List.count_eq_zero, List.count_eq_zero]
  exact ⟨fun h => ⟨h.1, h.2⟩, fun h => ⟨h.identity, h.provider⟩⟩

end Outcome

namespace CommandLine

section Entry

variable {sign : Char} {identity display tail : List Char}

/-- The line of an outcome: a sign, the identity, the provider, and what is said of a failure. -/
def entry (sign : Char) (identity display tail : List Char) : List Char :=
  [sign, ' '] ++ (identity ++ (" via ".toList ++ (display ++ tail)))

/-- An entry has one line, and one more for each line feed in the two names. -/
theorem length_segments_entry (plain : sign ≠ lineFeed) (free : lineFeed ∉ tail) :
    (segments lineFeed (entry sign identity display tail)).length =
      1 + (identity.count lineFeed + display.count lineFeed) := by
  have via : " via ".toList.count lineFeed = 0 := by decide
  have front : [sign, ' '].count lineFeed = 0 := by
    rw [List.count_cons_of_ne plain]
    rfl
  rw [Text.length_segments, entry]
  simp only [List.count_append, via, front, List.count_eq_zero.mpr free]
  omega

/-- Of these lines the first begins with the mark of the entry, and each other with what stands
behind a line feed in a name. -/
theorem countP_segments_entry (plain : sign ≠ lineFeed) (free : lineFeed ∉ tail)
    (solid : begins successMark tail = false) :
    (segments lineFeed (entry sign identity display tail)).countP (begins successMark) =
      (if sign = successMark then 1 else 0) +
        (innerStarts successMark identity + innerStarts successMark display) := by
  have other : successMark ≠ lineFeed := by decide
  have front : lineFeed ∉ [sign, ' '] := by
    rw [List.mem_cons, List.mem_singleton, not_or]
    exact ⟨plain.symm, by decide⟩
  have via : lineFeed ∉ " via ".toList := by decide
  have start :
      begins successMark (entry sign identity display tail) = true ↔ sign = successMark := by
    rw [entry, begins, List.cons_append, List.head?_cons, beq_iff_eq, Option.some.injEq]
  have behind : begins successMark (" via ".toList ++ (display ++ tail)) = false := rfl
  have marks : innerStarts successMark (entry sign identity display tail) =
      innerStarts successMark identity + innerStarts successMark display := by
    rw [entry, Text.innerStarts_append_of_not_mem front, Text.innerStarts_append_of_begins behind,
      Text.innerStarts_append_of_not_mem via, Text.innerStarts_append_of_begins solid,
      Text.innerStarts_of_not_mem free, Nat.add_zero]
  rw [Text.countP_begins_segments other, marks]
  simp only [start]

end Entry

/-- The line of an outcome has the success mark in front if no failure is named. -/
theorem exists_entry (o : Outcome) :
    ∃ sign tail, (outcomeLine o).toList =
        entry sign o.claimedIdentity.toList o.provider.displayId.toList tail ∧
      sign ≠ lineFeed ∧ lineFeed ∉ tail ∧ begins successMark tail = false ∧
      (sign = successMark ↔ o.failure? = none) := by
  obtain ⟨identity, provider, verified, failure?⟩ := o
  cases failure? with
  | none =>
    refine ⟨'✅', [], ?_, by decide, nofun, rfl, iff_of_true rfl rfl⟩
    simp [outcomeLine, entry]
  | some failure =>
    refine ⟨'❌', ": ".toList ++ failure.message.toList, ?_, by decide, ?_, rfl,
      iff_of_false (by decide) nofun⟩
    · simp [outcomeLine, entry]
    · rw [← String.toList_append]
      exact oneLine_append.mpr ⟨by decide, failure.oneLine_message⟩

/-- What is printed of an outcome has one line, and one more for each line feed in its names. -/
theorem length_segments_outcomeLine (o : Outcome) :
    (segments lineFeed (outcomeLine o).toList).length = 1 + o.lineFeeds := by
  obtain ⟨sign, tail, line, plain, free, -, -⟩ := exists_entry o
  rw [line, length_segments_entry plain free]
  rfl

/-- Of these lines one bears the success mark if nothing failed, and one more for each mark that a
name brings along. -/
theorem countP_segments_outcomeLine (o : Outcome) :
    (segments lineFeed (outcomeLine o).toList).countP (begins successMark) =
      (if o.failure? = none then 1 else 0) + o.forgedMarks := by
  obtain ⟨sign, tail, line, plain, free, solid, success⟩ := exists_entry o
  rw [line, countP_segments_entry plain free solid]
  simp only [success]
  rfl

/-! ## Reports -/

/-- What is printed is read as the segments of each line, in a row. -/
theorem lines_printed (ls : List String) :
    lines (Output.printed ls).toList = ls.flatMap fun l => segments lineFeed l.toList := by
  have ended : ∀ ls : List String, segments lineFeed (Output.printed ls).toList =
      (ls.flatMap fun l => segments lineFeed l.toList) ++ [[]] := by
    intro ls
    induction ls with
    | nil => rfl
    | cons l ls ih =>
      have shape : (Output.printed (l :: ls)).toList =
          l.toList ++ lineFeed :: (Output.printed ls).toList := by
        simp only [Output.printed, String.toList_join, List.map_cons, List.flatMap_cons,
          String.toList_append, List.append_assoc]
        rfl
      rw [shape, Text.segments_append_cons, ih, List.flatMap_cons, List.append_assoc]
  rw [lines, ended, List.dropLast_concat]

/-- The lines of a report that are about no single token. -/
def notices (r : Report) : List String :=
  (if r.outcomes = [] then ["No identity claims could be evaluated"] else []) ++
    if 0 < r.unevaluated then
      ["⚠️  " ++ toString r.unevaluated ++ " token(s) could not be evaluated"]
    else []

/-- A notice is on one line, which does not begin with the success mark. -/
theorem plain_of_mem_notices {r : Report} {l : String} (h : l ∈ notices r) :
    (segments lineFeed l.toList).length = 1 ∧
      (segments lineFeed l.toList).countP (begins successMark) = 0 := by
  have read : OneLine l ∧ begins successMark l.toList = false := by
    rcases List.mem_append.mp h with empty | rest
    · split at empty
      · obtain rfl := List.mem_singleton.mp empty
        decide
      · cases empty
    · split at rest
      · obtain rfl := List.mem_singleton.mp rest
        refine ⟨?_, ?_⟩
        · simp only [oneLine_append, oneLine_toString, and_true]
          decide
        · simp only [String.toList_append]
          rfl
      · cases rest
  rw [Text.segments_of_not_mem read.1]
  refine ⟨rfl, ?_⟩
  rw [List.countP_singleton, read.2]
  rfl

/-- The lines of a report, as they are read. -/
def shown (r : Report) : List (List Char) := lines (Output.printed (reportLines r)).toList

/-- A report prints its outcomes and its notices, in some order. -/
theorem perm_reportLines (r : Report) :
    (reportLines r).Perm (r.outcomes.map outcomeLine ++ notices r) := by
  rw [reportLines, notices, ← List.append_assoc]
  exact List.perm_append_comm.append_right _

/-- What is read of a report: the lines of its outcomes, and the notices. -/
theorem perm_shown (r : Report) :
    (shown r).Perm ((r.outcomes.flatMap fun o => segments lineFeed (outcomeLine o).toList) ++
      (notices r).flatMap fun l => segments lineFeed l.toList) := by
  rw [shown, lines_printed]
  refine ((perm_reportLines r).flatMap_right _).trans ?_
  rw [List.flatMap_append, List.flatMap_map]

/-- There is a line for each outcome and each notice, and one for each line feed in an outcome. -/
theorem length_shown (r : Report) :
    (shown r).length =
      r.outcomes.length + (notices r).length + (r.outcomes.map Outcome.lineFeeds).sum := by
  have outcomes (os : List Outcome) :
      (os.flatMap fun o => segments lineFeed (outcomeLine o).toList).length =
        os.length + (os.map Outcome.lineFeeds).sum := by
    induction os with
    | nil => rfl
    | cons o os ih =>
      rw [List.flatMap_cons, List.length_append, ih, length_segments_outcomeLine, List.length_cons,
        List.map_cons, List.sum_cons]
      omega
  have others : ((notices r).flatMap fun l => segments lineFeed l.toList).length =
      (notices r).length := by
    rw [List.length_flatMap, List.map_congr_left fun l mem => (plain_of_mem_notices mem).1]
    simp
  rw [(perm_shown r).length_eq, List.length_append, outcomes, others]
  omega

/-- There is a line with the success mark for each outcome without a failure, and one for each mark
behind a line feed in an outcome. -/
theorem countP_shown (r : Report) :
    (shown r).countP (begins successMark) =
      r.outcomes.countP (fun o => o.failure? = none) +
        (r.outcomes.map Outcome.forgedMarks).sum := by
  have outcomes (os : List Outcome) :
      (os.flatMap fun o => segments lineFeed (outcomeLine o).toList).countP (begins successMark) =
        os.countP (fun o => o.failure? = none) + (os.map Outcome.forgedMarks).sum := by
    induction os with
    | nil => rfl
    | cons o os ih =>
      rw [List.flatMap_cons, List.countP_append, ih, countP_segments_outcomeLine, List.countP_cons,
        List.map_cons, List.sum_cons]
      simp only [decide_eq_true_eq]
      omega
  have others : ((notices r).flatMap fun l => segments lineFeed l.toList).countP
      (begins successMark) = 0 := by
    rw [List.countP_eq_zero]
    intro line mem
    obtain ⟨l, notice, inside⟩ := List.mem_flatMap.mp mem
    exact List.countP_eq_zero.mp (plain_of_mem_notices notice).2 line inside
  rw [(perm_shown r).countP_eq, List.countP_append, outcomes, others, Nat.add_zero]

/-! ## The report of a pass -/

variable {e : Verification.Engine} {b : Binder} {q : Verification.Request} {report : Report}

/-- In the report of a pass, the verified outcomes are those without a failure. -/
theorem countP_failure?_of_run (hb : b.Reachable e.digest) (h : (e.run b q).result = .ok report) :
    report.outcomes.countP (fun o => o.failure? = none) = report.verified.length := by
  have same : ∀ o ∈ report.outcomes, (decide (o.failure? = none) = true ↔ o.verified = true) := by
    intro o mem
    obtain ⟨i, at_i⟩ := List.mem_iff_getElem?.mp mem
    obtain ⟨bundle, f, r, -, -, -, rfl⟩ := Verification.Engine.outcome_of_run hb h at_i
    rw [decide_eq_true_iff]
    exact (r.outcome_verified_iff _).1.symm
  rw [List.countP_congr same, Report.verified, List.countP_eq_length_filter]

/-- Of the report of a pass, a line is read for each outcome and each notice, and one more for each
line feed in an identity or the name of a provider; the lines with a success mark are as many as the
verified outcomes, and one more for each mark behind such a line feed. So there is one line for each
outcome exactly if none of them has a line feed, and there are as many marks as verified outcomes
exactly if none has a mark behind one. -/
theorem shown_of_run (hb : b.Reachable e.digest) (h : (e.run b q).result = .ok report) :
    (shown report).length = report.outcomes.length + (notices report).length +
        (report.outcomes.map Outcome.lineFeeds).sum ∧
      (shown report).countP (begins successMark) = report.verified.length +
        (report.outcomes.map Outcome.forgedMarks).sum ∧
      ((shown report).length = report.outcomes.length + (notices report).length ↔
        ∀ o ∈ report.outcomes, o.Flat) ∧
      ((shown report).countP (begins successMark) = report.verified.length ↔
        ∀ o ∈ report.outcomes, o.forgedMarks = 0) := by
  have marks := countP_shown report
  rw [countP_failure?_of_run hb h] at marks
  have none_of_sum (f : Outcome → Nat) :
      (report.outcomes.map f).sum = 0 ↔ ∀ o ∈ report.outcomes, f o = 0 := by
    rw [List.sum_eq_zero_iff_forall_eq_nat]
    exact List.forall_mem_map
  refine ⟨length_shown report, marks, ?_, ?_⟩
  · rw [length_shown, Nat.add_eq_left, none_of_sum]
    simp only [Outcome.lineFeeds_eq_zero_iff]
  · rw [marks, Nat.add_eq_left, none_of_sum]

/-- The report on two tokens that verify, for Alice and Bob. -/
theorem shown_of_run_aliceToBob :
    let v := Conversation.aliceToBob .sha512
    let e := v.engine v.recipientView .none (.ofSeconds 60)
    let salt : Salt := ⟨List.replicate 32 9⟩
    let n : CompoundNonce := ⟨⟨List.replicate 32 1, List.length_replicate⟩,
      stretch .sha512 v.fingerprint.bytes salt.bytes⟩
    let tokens := Session.honestTokens 1700000000 Conversation.alphaAndBeta [n, n]
    let q : Verification.Request := ⟨Bundle.toWire ⟨salt, tokens⟩, ⟨"alice"⟩, .verifier, .ignore⟩
    ∃ report, (e.run {} q).result = .ok report ∧ (shown report).length = 2 ∧
      (shown report).countP (begins successMark) = 2 := by
  intro v e salt n tokens q
  have clock : Authorization.Simulated.FitsClock 1700000000 := by decide
  have bound : ∀ m ∈ [n, n], m.hash = stretch .sha512 v.fingerprint.bytes salt.bytes :=
    List.forall_mem_cons.mpr ⟨rfl, List.forall_mem_singleton.mpr rfl⟩
  let outcomes := Conversation.alphaAndBeta.map Authorization.Simulated.Registration.outcome
  have report : (e.run {} q).result = .ok { outcomes := outcomes } :=
    Verification.Engine.run_honestTokens (v.engine_knows _ _ _) v.family clock .empty
      (fun _ mem => mem) rfl rfl (v.localFingerprint_recipient .none (.ofSeconds 60)) bound rfl
  obtain ⟨length, marks, -, -⟩ := shown_of_run .empty report
  exact ⟨_, report, length.trans (by decide), marks.trans (by decide)⟩

/-- An identity that is three lines long, of which the middle one is that of a verified token. -/
def forgedIdentity : String := "x\n✅ alice@example.com via Alpha\nx"

/-- A token that names the issuer of Alice and is signed by somebody else is not verified, and a
line is printed for it that says that Alice is. -/
theorem shown_forged :
    let v := Conversation.aliceToBob .sha512
    let e := v.engine v.recipientView .none (.ofSeconds 60)
    let mallory : Issuer := ⟨"https://mallory.example.com", "mallory-1", [1, 2, 3]⟩
    let token := mallory.sign (.object (identityClaims "https://alpha.example.com" forgedIdentity))
    let q : Verification.Request :=
      ⟨Bundle.toWire ⟨⟨List.replicate 32 9⟩, [token]⟩, ⟨"alice"⟩, .verifier, .ignore⟩
    ∃ report, (e.run {} q).result = .ok report ∧ report.outcomes.length = 1 ∧
      report.unevaluated = 0 ∧ report.verified = [] ∧ (shown report).length = 3 ∧
      "✅ alice@example.com via Alpha".toList ∈ shown report ∧
      (shown report).countP (begins successMark) = 1 := by
  intro v e mallory token q
  let alpha : Authorization.Simulated.Registration := Conversation.alphaAndBeta[0]
  have member : alpha ∈ Conversation.alphaAndBeta := List.mem_cons_self
  have visible : ∃ c ∈ forgedIdentity.toList, Text.isBlank c = false :=
    ⟨'x', by decide, by decide⟩
  have run := Verification.Engine.run_foreign (e := e) (q := q) (i := mallory) .empty visible
    (Authorization.Simulated.byIssuer?_registryOf v.family member)
    (Authorization.Simulated.document_resolverOf v.family member 0)
    (Authorization.Simulated.keys_resolverOf v.family member 0) (by decide)
    (v.localFingerprint_recipient .none (.ofSeconds 60)) rfl
  refine ⟨_, run, rfl, rfl, rfl, ?_, ?_, ?_⟩
  · decide
  · decide
  · decide

end CommandLine

end TokenBinding
