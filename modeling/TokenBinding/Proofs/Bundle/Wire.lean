import TokenBinding.Bundle
import TokenBinding.Proofs.Text.Base64
import TokenBinding.Proofs.Text.Blank
import TokenBinding.Proofs.Text.Segments

/-!
# What becomes of a bundle on its way

The salt is written in base64, which has no `?` in it and no blank, so it is cut off and decoded
again whatever it is. The tokens are written as they are, and nothing in the text says where one
ends. `parse_toWire_eq` says what is read for any tokens at all: with a `?` in one of them nothing,
and otherwise the tokens that each of them reads as, in a row.

So a token survives the way if it is `Carried`, that is if it is not empty, has no blank at either
end and none of the two separators in it; a bundle is read back exactly if all of its tokens do
(`parse_toWire_eq_ok_iff`). Every token that was read from a bundle does (`carried_of_parse`).
-/

namespace TokenBinding.Bundle

open Text (Base64.decode_encode Base64.not_separator_of_mem_encode)

/-- A token that survives the way through a bundle. -/
structure Carried (token : String) : Prop where
  nonempty : token.toList ≠ []
  trimmed : Text.trimChars token.toList = token.toList
  noTokenSeparator : tokenSeparator ∉ token.toList
  noSaltSeparator : saltSeparator ∉ token.toList

/-- The salt is read back. -/
theorem ofBase64_toBase64 (s : Salt) :
    Salt.ofBase64 (String.ofList (Text.trimChars s.toBase64.toList)) = .ok s := by
  have trimmed : Text.trimChars s.toBase64.toList = s.toBase64.toList :=
    Text.trimChars_of_not_blank fun _ mem => (Base64.not_separator_of_mem_encode .standard mem).1
  rw [trimmed, String.ofList_toList, Salt.ofBase64, Salt.toBase64, Base64.decode_encode]

/-! ## The part of the tokens -/

/-- Joined tokens are read as the tokens that each of them reads as, in a row. -/
theorem parseTokens_join_eq_flatMap (tokens : List String) :
    parseTokens (Text.join tokenSeparator (tokens.map String.toList)) =
      tokens.flatMap fun t => parseTokens t.toList := by
  cases tokens with
  | nil => rfl
  | cons t rest =>
    have parts : (t :: rest).map String.toList ≠ [] := by
      rw [List.map_cons]
      exact List.cons_ne_nil _ _
    simp only [parseTokens, Text.segments_join_eq_flatMap parts, List.flatMap_map,
      List.map_flatMap, List.filter_flatMap]

/-- A token that is read from a text is not empty, is trimmed and has no separator in it, and its
characters are from the text. -/
theorem mem_parseTokens {cs : List Char} {t : String} (h : t ∈ parseTokens cs) :
    t.toList ≠ [] ∧ Text.trimChars t.toList = t.toList ∧ tokenSeparator ∉ t.toList ∧
      ∀ c ∈ t.toList, c ∈ cs := by
  obtain ⟨piece, kept, rfl⟩ := List.mem_map.mp h
  obtain ⟨trimmed, nonempty⟩ := List.mem_filter.mp kept
  obtain ⟨segment, among, rfl⟩ := List.mem_map.mp trimmed
  have inside : ∀ c ∈ Text.trimChars segment, c ∈ segment :=
    fun c mem => Text.mem_of_mem_trimChars mem
  rw [String.toList_ofList]
  refine ⟨of_decide_eq_true nonempty, Text.trimChars_trimChars segment, ?_, ?_⟩
  · exact fun mem => Text.not_mem_of_mem_segments among (inside _ mem)
  · intro c mem
    rw [← Text.join_segments tokenSeparator cs]
    exact Text.mem_join_of_mem among (inside c mem)

/-- A token that survives is read as itself. -/
theorem Carried.parseTokens {t : String} (h : Carried t) : parseTokens t.toList = [t] := by
  simp only [Bundle.parseTokens, Text.segments_of_not_mem h.noTokenSeparator, List.map_cons,
    List.map_nil, h.trimmed, List.filter_cons, List.filter_nil, h.nonempty, ne_eq,
    not_false_eq_true, decide_true, if_true, String.ofList_toList]

/-! ## Whole bundles -/

/-- What is read from the text of a bundle. -/
theorem parse_toWire_eq (b : Bundle) :
    parse b.toWire =
      if ∃ t ∈ b.tokens, saltSeparator ∈ t.toList then .error .extraSeparator
      else .ok ⟨b.salt, b.tokens.flatMap fun t => parseTokens t.toList⟩ := by
  have front : saltSeparator ∉ b.salt.toBase64.toList := by
    intro mem
    exact (Base64.not_separator_of_mem_encode .standard mem).2 (by decide)
  have back : saltSeparator ∈ Text.join tokenSeparator (b.tokens.map String.toList) ↔
      ∃ t ∈ b.tokens, saltSeparator ∈ t.toList := by
    constructor
    · intro mem
      rcases Text.mem_join mem with same | ⟨p, part, inside⟩
      · exact absurd same (by decide)
      · obtain ⟨token, among, rfl⟩ := List.mem_map.mp part
        exact ⟨token, among, inside⟩
    · rintro ⟨token, among, inside⟩
      exact Text.mem_join_of_mem (List.mem_map_of_mem among) inside
  have shape : b.toWire.toList = b.salt.toBase64.toList ++
      saltSeparator :: Text.join tokenSeparator (b.tokens.map String.toList) := by
    simp only [toWire, String.toList_append, String.toList_singleton, String.toList_ofList,
      List.append_assoc, List.singleton_append]
  simp only [parse, shape, Text.cut?_append front, back, ofBase64_toBase64,
    parseTokens_join_eq_flatMap]

/-- A bundle is read back exactly if all of its tokens survive. -/
theorem parse_toWire_eq_ok_iff {b : Bundle} :
    parse b.toWire = .ok b ↔ ∀ t ∈ b.tokens, Carried t := by
  rw [parse_toWire_eq]
  constructor
  · intro h
    split at h
    · cases h
    · next free =>
      have same : b.tokens.flatMap (fun t => parseTokens t.toList) = b.tokens :=
        congrArg tokens (Except.ok.inj h)
      intro t mem
      have piece : t ∈ b.tokens.flatMap fun t => parseTokens t.toList := by rwa [same]
      obtain ⟨whole, -, read⟩ := List.mem_flatMap.mp piece
      obtain ⟨nonempty, trimmed, noTokenSeparator, -⟩ := mem_parseTokens read
      exact ⟨nonempty, trimmed, noTokenSeparator, fun inside => free ⟨t, mem, inside⟩⟩
  · intro carried
    have free : ¬∃ t ∈ b.tokens, saltSeparator ∈ t.toList :=
      fun ⟨t, mem, inside⟩ => (carried t mem).noSaltSeparator inside
    have same : b.tokens.flatMap (fun t => parseTokens t.toList) = b.tokens := by
      rw [List.flatMap_def, List.map_congr_left fun t mem => (carried t mem).parseTokens,
        ← List.flatMap_def, List.flatMap_singleton']
    rw [if_neg free, same]

/-- A bundle of tokens that survive is read back. -/
theorem parse_toWire {b : Bundle} (carried : ∀ t ∈ b.tokens, Carried t) :
    parse b.toWire = .ok b :=
  parse_toWire_eq_ok_iff.mpr carried

/-- The tokens of a bundle that was read survive the way once more. -/
theorem carried_of_parse {wire : String} {b : Bundle} (h : parse wire = .ok b) :
    ∀ t ∈ b.tokens, Carried t := by
  unfold parse at h
  split at h
  · cases h
  · next front back cut =>
    split at h
    · cases h
    · next free =>
      split at h
      · cases h
      · next salt decoded =>
        cases h
        intro t mem
        obtain ⟨nonempty, trimmed, noTokenSeparator, inside⟩ := mem_parseTokens mem
        exact ⟨nonempty, trimmed, noTokenSeparator, fun mark => free (inside _ mark)⟩

end TokenBinding.Bundle
