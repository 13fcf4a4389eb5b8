import TokenBinding.Proofs.Bundle.Wire
import TokenBinding.Proofs.Text.Base64.Canonical

/-!
# The texts of a bundle

`Spells` says which bundle a text spells, without regard to how it is read: the text has one `?`;
before it stands the salt in base64 between blanks, and behind it a row of segments with `;` between
them, each of them a token between blanks or blanks alone (`Lists`). A text may spell one bundle
only, and a bundle is read from a text exactly if the text spells it (`parse_eq_ok_iff`).

The other texts are refused, and the number of `?` decides before the salt does: `parse_reading`
goes through the four cases, and each verdict is had in its own case only.

A bundle has many texts, since blanks and empty segments are free. Writing picks one of them. That
text spells the bundle if its tokens survive the way (`Bundle.Carried`), which those that were read
do; so what was read once is read again.

What it does not establish. A bundle from elsewhere may have an empty salt, or no tokens, and tokens
that are no tokens of any issuer; what becomes of them is a matter of the pass.

Main statement: `wire_format`.
-/

namespace TokenBinding.Bundle

open Text (CutOnce Trims trims_iff)
open Text.Base64 (decode_eq_ok_iff)

/-! ## The part of the tokens -/

/-- What one segment gives: the token that stands there between blanks, or nothing. -/
inductive Segment (cs : List Char) : List String → Prop where
  | token {t : String} (nonempty : t.toList ≠ []) (trims : Trims cs t.toList) : Segment cs [t]
  | blank (trims : Trims cs []) : Segment cs []

/-- The tokens of a row of segments with separators between them. -/
inductive Lists : List Char → List String → Prop where
  | last {cs : List Char} {ts : List String} (free : tokenSeparator ∉ cs)
      (segment : Segment cs ts) : Lists cs ts
  | more {front back : List Char} {ts tokens : List String} (free : tokenSeparator ∉ front)
      (segment : Segment front ts) (rest : Lists back tokens) :
      Lists (front ++ tokenSeparator :: back) (ts ++ tokens)

/-- What stands on the two sides of a separator is read apart, and neither side knows of the
other. -/
theorem parseTokens_append_cons (front back : List Char) :
    parseTokens (front ++ tokenSeparator :: back) = parseTokens front ++ parseTokens back := by
  simp only [parseTokens, Text.segments_append_cons, List.map_append, List.filter_append]

/-- Without a separator there is at most one token, and it is there unless nothing is left after
trimming. -/
theorem parseTokens_of_not_mem {cs : List Char} (free : tokenSeparator ∉ cs) :
    parseTokens cs =
      if Text.trimChars cs = [] then [] else [String.ofList (Text.trimChars cs)] := by
  by_cases blank : Text.trimChars cs = []
  · simp [parseTokens, Text.segments_of_not_mem free, blank]
  · simp [parseTokens, Text.segments_of_not_mem free, blank]

/-- The grammar of one segment is what the reader makes of it. -/
theorem segment_iff {cs : List Char} {ts : List String} (free : tokenSeparator ∉ cs) :
    Segment cs ts ↔ parseTokens cs = ts := by
  rw [parseTokens_of_not_mem free]
  constructor
  · intro segment
    cases segment with
    | token nonempty trims => rw [trims.eq, if_neg nonempty, String.ofList_toList]
    | blank trims => rw [trims.eq, if_pos rfl]
  · rintro rfl
    by_cases blank : Text.trimChars cs = []
    · rw [if_pos blank]
      exact .blank (trims_iff.mpr blank)
    · rw [if_neg blank]
      apply Segment.token
      · rwa [String.toList_ofList]
      · rw [String.toList_ofList]
        exact Text.trims_trimChars cs

/-- The tokens that are read are listed: the text is taken apart at its first separator. -/
theorem lists_parseTokens (cs : List Char) : Lists cs (parseTokens cs) := by
  by_cases inside : tokenSeparator ∈ cs
  · obtain ⟨front, back, whole, free⟩ := List.eq_append_cons_of_mem inside
    have shorter : back.length < cs.length := by
      rw [whole, List.length_append, List.length_cons]
      omega
    rw [whole, parseTokens_append_cons]
    exact .more free ((segment_iff free).mpr rfl) (lists_parseTokens back)
  · exact .last inside ((segment_iff inside).mpr rfl)
termination_by cs.length

/-- The grammar of a token list is what the reader makes of it. The induction is on the
separators. -/
theorem lists_iff {cs : List Char} {tokens : List String} :
    Lists cs tokens ↔ parseTokens cs = tokens := by
  constructor
  · intro lists
    induction lists with
    | last free segment => exact (segment_iff free).mp segment
    | more free segment rest ih =>
      rw [parseTokens_append_cons, (segment_iff free).mp segment, ih]
  · rintro rfl
    exact lists_parseTokens cs

/-! ## Whole texts -/

/-- The text spells the bundle. -/
inductive Spells (wire : String) (b : Bundle) : Prop where
  | parts {front back : List Char} (cut : CutOnce saltSeparator wire.toList front back)
      (salt : Trims front (Text.Base64.encode .standard b.salt.bytes).toList)
      (tokens : Lists back b.tokens)

/-- What is read from a text, by the number of its separators and the part before the first one. -/
inductive Reading (wire : String) : Except BundleError Bundle → Prop where
  | missingSeparator (none : saltSeparator ∉ wire.toList) : Reading wire (.error .missingSeparator)
  | extraSeparator (two : 2 ≤ wire.toList.count saltSeparator) :
      Reading wire (.error .extraSeparator)
  | invalidSalt {front back : List Char} {reason : String}
      (cut : CutOnce saltSeparator wire.toList front back)
      (foreign : ∀ bytes, ¬Trims front (Text.Base64.encode .standard bytes).toList) :
      Reading wire (.error (.invalidSalt reason))
  | bundle {b : Bundle} (spells : Spells wire b) : Reading wire (.ok b)

/-- A text without the separator of the salt is refused for want of it. -/
theorem parse_of_not_mem {wire : String} (none : saltSeparator ∉ wire.toList) :
    parse wire = .error .missingSeparator := by
  rw [parse, Text.cut?_eq_none none]

/-- A text with two or more of them is refused for the one too many, whatever else is wrong with
it. -/
theorem parse_of_two {wire : String} (two : 2 ≤ wire.toList.count saltSeparator) :
    parse wire = .error .extraSeparator := by
  have inside : saltSeparator ∈ wire.toList := List.count_pos_iff.mp (by omega)
  obtain ⟨front, back, whole, free⟩ := List.eq_append_cons_of_mem inside
  have again : saltSeparator ∈ back := by
    rw [whole, List.count_append, List.count_cons_self,
      List.count_eq_zero_of_not_mem free] at two
    exact List.count_pos_iff.mp (by omega)
  simp only [parse, whole, Text.cut?_append free, if_pos again]

/-- A salt is read from the one text that is written for it. -/
theorem ofBase64_eq_ok_iff {s : String} {salt : Salt} :
    Salt.ofBase64 s = .ok salt ↔ s = salt.toBase64 := by
  obtain ⟨bytes⟩ := salt
  rw [Salt.toBase64, ← decode_eq_ok_iff, Salt.ofBase64]
  cases Text.Base64.decode .standard s with
  | ok read => simp only [Except.ok.injEq, Salt.mk.injEq]
  | error e => simp only [reduceCtorEq]

/-- In a bundle the salt may stand between blanks. -/
theorem ofBase64_trimChars_iff {front : List Char} {salt : Salt} :
    Salt.ofBase64 (String.ofList (Text.trimChars front)) = .ok salt ↔
      Trims front salt.toBase64.toList := by
  rw [ofBase64_eq_ok_iff, trims_iff, ← String.toList_inj, String.toList_ofList]

/-- A text that spells a bundle is read as that bundle. -/
theorem parse_of_spells {wire : String} {b : Bundle} (h : Spells wire b) : parse wire = .ok b := by
  obtain ⟨cut, salt, tokens⟩ := h
  simp only [parse, cut.whole, Text.cut?_append cut.front_free, if_neg cut.back_free,
    ofBase64_trimChars_iff.mpr salt, lists_iff.mp tokens]

/-- A text whose front is base64 of nothing is refused for its salt, whatever tokens come behind. -/
theorem parse_of_foreign {wire : String} {front back : List Char}
    (cut : CutOnce saltSeparator wire.toList front back)
    (foreign : ∀ bytes, ¬Trims front (Text.Base64.encode .standard bytes).toList) :
    ∃ reason, parse wire = .error (.invalidSalt reason) := by
  cases read : Salt.ofBase64 (String.ofList (Text.trimChars front)) with
  | ok salt => exact absurd (ofBase64_trimChars_iff.mp read) (foreign salt.bytes)
  | error e =>
    refine ⟨e.message, ?_⟩
    simp only [parse, cut.whole, Text.cut?_append cut.front_free, if_neg cut.back_free, read]

/-- One of the four cases applies. -/
theorem parse_reading (wire : String) : Reading wire (parse wire) := by
  rcases Nat.lt_trichotomy (wire.toList.count saltSeparator) 1 with none | once | two
  · have absent : saltSeparator ∉ wire.toList := List.count_eq_zero.mp (by omega)
    rw [parse_of_not_mem absent]
    exact .missingSeparator absent
  · obtain ⟨front, back, cut⟩ := Text.exists_cutOnce_iff.mpr once
    by_cases spelled : ∃ bytes, Trims front (Text.Base64.encode .standard bytes).toList
    · obtain ⟨bytes, salt⟩ := spelled
      have spells : Spells wire ⟨⟨bytes⟩, parseTokens back⟩ :=
        .parts cut salt (lists_parseTokens back)
      rw [parse_of_spells spells]
      exact .bundle spells
    · have foreign : ∀ bytes, ¬Trims front (Text.Base64.encode .standard bytes).toList :=
        fun bytes salt => spelled ⟨bytes, salt⟩
      obtain ⟨reason, refused⟩ := parse_of_foreign cut foreign
      rw [refused]
      exact .invalidSalt cut foreign
  · rw [parse_of_two two]
    exact .extraSeparator two

/-- Every result of the reader is one that the grammar has for the text. -/
theorem reading_of_parse {wire : String} {read : Except BundleError Bundle}
    (h : parse wire = read) : Reading wire read :=
  h ▸ parse_reading wire

/-- A bundle is read from the texts that spell it. -/
theorem parse_eq_ok_iff {wire : String} {b : Bundle} : parse wire = .ok b ↔ Spells wire b := by
  refine ⟨fun h => ?_, parse_of_spells⟩
  cases reading_of_parse h with
  | bundle spells => exact spells

/-- For want of a separator exactly the texts are refused that have none. -/
theorem parse_eq_missingSeparator_iff {wire : String} :
    parse wire = .error .missingSeparator ↔ saltSeparator ∉ wire.toList := by
  refine ⟨fun h => ?_, parse_of_not_mem⟩
  cases reading_of_parse h with
  | missingSeparator none => exact none

/-- For a separator too many exactly the texts are refused that have at least two. -/
theorem parse_eq_extraSeparator_iff {wire : String} :
    parse wire = .error .extraSeparator ↔ 2 ≤ wire.toList.count saltSeparator := by
  refine ⟨fun h => ?_, parse_of_two⟩
  cases reading_of_parse h with
  | extraSeparator two => exact two

/-- For their salt exactly the texts are refused that have one separator and no base64 in front of
it. -/
theorem exists_parse_eq_invalidSalt_iff {wire : String} :
    (∃ reason, parse wire = .error (.invalidSalt reason)) ↔
      ∃ front back, CutOnce saltSeparator wire.toList front back ∧
        ∀ bytes, ¬Trims front (Text.Base64.encode .standard bytes).toList := by
  constructor
  · rintro ⟨reason, h⟩
    cases reading_of_parse h with
    | invalidSalt cut foreign => exact ⟨_, _, cut, foreign⟩
  · rintro ⟨front, back, cut, foreign⟩
    exact parse_of_foreign cut foreign

/-- Some bundle is read from a text with one separator and a salt before it, whatever stands
behind. -/
theorem exists_parse_eq_ok_iff {wire : String} :
    (∃ b, parse wire = .ok b) ↔ ∃ front back bytes, CutOnce saltSeparator wire.toList front back ∧
      Trims front (Text.Base64.encode .standard bytes).toList := by
  constructor
  · rintro ⟨b, h⟩
    obtain ⟨cut, salt, tokens⟩ := parse_eq_ok_iff.mp h
    exact ⟨_, _, _, cut, salt⟩
  · rintro ⟨front, back, bytes, cut, salt⟩
    exact ⟨_, parse_of_spells (b := ⟨⟨bytes⟩, parseTokens back⟩)
      (.parts cut salt (lists_parseTokens back))⟩

/-! ## The format -/

/-- The number of separators decides first: a text without one and a text with two or more are
refused as such, whatever the salt is. With one, the text before it has to be the base64 of some
bytes between blanks; it is read then, as the bundle that it spells. What was read is read once more
from the text that it is written as, and any bundle is read from its text exactly if none of its
tokens is empty, starts or ends with a blank, or has a separator in it. -/
theorem wire_format :
    (∀ wire, parse wire = .error .missingSeparator ↔ saltSeparator ∉ wire.toList) ∧
      (∀ wire, parse wire = .error .extraSeparator ↔ 2 ≤ wire.toList.count saltSeparator) ∧
      (∀ wire, (∃ reason, parse wire = .error (.invalidSalt reason)) ↔
        ∃ front back, CutOnce saltSeparator wire.toList front back ∧
          ∀ bytes, ¬Trims front (Text.Base64.encode .standard bytes).toList) ∧
      (∀ wire, (∃ b, parse wire = .ok b) ↔
        ∃ front back bytes, CutOnce saltSeparator wire.toList front back ∧
          Trims front (Text.Base64.encode .standard bytes).toList) ∧
      (∀ wire b, parse wire = .ok b ↔ Spells wire b) ∧
      (∀ wire b, parse wire = .ok b → parse b.toWire = .ok b) ∧
      ∀ salt tokens, parse (toWire ⟨salt, tokens⟩) = .ok ⟨salt, tokens⟩ ↔
        ∀ t ∈ tokens, Carried t := by
  refine ⟨fun _ => parse_eq_missingSeparator_iff, fun _ => parse_eq_extraSeparator_iff,
    fun _ => exists_parse_eq_invalidSalt_iff, fun _ => exists_parse_eq_ok_iff,
    fun _ _ => parse_eq_ok_iff, ?_, fun _ _ => parse_toWire_eq_ok_iff⟩
  intro wire b read
  exact parse_toWire (carried_of_parse read)

/-- A text with blanks, an empty segment and a blank one spells a bundle with two tokens, which is
written without them and read back. A token with a separator in it is not. -/
theorem wire_format_blanks :
    let wire := "\u2003AAEC\n?\u00a0;a b;;\u3000c\t"
    let b : Bundle := ⟨⟨[0, 1, 2]⟩, ["a b", "c"]⟩
    let cut : Bundle := ⟨⟨[]⟩, ["a;b"]⟩
    Spells wire b ∧ b.toWire = "AAEC?a b;c" ∧ parse b.toWire = .ok b ∧
      parse cut.toWire ≠ .ok cut := by
  intro wire b cut
  obtain ⟨-, -, -, -, spells, again, back⟩ := wire_format
  have read : parse wire = .ok b := by decide +kernel
  refine ⟨(spells wire b).mp read, by decide +kernel, again wire b read, fun same => ?_⟩
  have carried : Carried "a;b" := (back ⟨[]⟩ ["a;b"]).mp same "a;b" List.mem_cons_self
  exact carried.noTokenSeparator (by decide)

end TokenBinding.Bundle
