import Mathlib.Control.Monad.Basic
import TokenBinding.Proofs.Nonce.Cache
import TokenBinding.Proofs.Text.Base64.Canonical
import TokenBinding.Proofs.Text.Segments

/-!
# A compound nonce has one spelling

Both halves are base64, which has no `&` in it, so the text of a compound nonce has one separator;
and base64 spells a byte string in one way only. So a text is read as a compound nonce exactly if it
is the text of that nonce (`parse_eq_ok_iff`). In particular a true nonce can be told from the text
(`text_inj`): two ceremonies that drew different true nonces sent different texts.

`Misspelled` lists what can be wrong with a text, without regard to how it is read: the number of
separators, and for a text with one of them, a half that is not base64 or spells another number of
bytes. Nothing else can be wrong (`misspelled_iff`).

Main statement: `spelled_once`.
-/

namespace TokenBinding.CompoundNonce

open Text (CutOnce Base64.decode_encode Base64.decode_eq_ok_iff
  Base64.not_separator_of_mem_encode)

theorem separator_not_mem_encode (bs : Bytes) :
    separator ∉ (Text.Base64.encode .standard bs).toList := by
  intro mem
  exact (Base64.not_separator_of_mem_encode .standard mem).2 (by decide)

/-! ## Halves -/

/-- A half is read exactly if it is what is written for its bytes. The decoder asks for canonical
padding, so there is no second way to write them. -/
theorem decodeHalf_eq_ok_iff {half : String} {cs : List Char}
    {bytes : { bytes : Bytes // bytes.length = 32 }} :
    decodeHalf half cs = .ok bytes ↔ cs = (Text.Base64.encode .standard bytes.1).toList := by
  constructor
  · intro h
    unfold decodeHalf at h
    split at h
    · cases h
    · next decoded spelled =>
      split at h
      · cases h
        rw [← Base64.decode_eq_ok_iff.mp spelled, String.toList_ofList]
      · cases h
  · rintro rfl
    simp only [decodeHalf, String.ofList_toList, Base64.decode_encode, dif_pos bytes.2]

/-- The text of a compound nonce has one separator, between its halves. -/
theorem cutOnce_text (n : CompoundNonce) :
    CutOnce separator n.text.toList (Text.Base64.encode .standard n.trueNonce.bytes).toList
      (Text.Base64.encode .standard n.hash.bytes).toList where
  whole := by
    simp only [text, String.toList_append, String.toList_singleton, List.append_assoc,
      List.singleton_append]
  front_free := separator_not_mem_encode _
  back_free := separator_not_mem_encode _

/-- A text that is cut into what is written for two halves is the text of a compound nonce. -/
theorem text_eq_of_cutOnce {s : String} {n : CompoundNonce}
    (h : CutOnce separator s.toList (Text.Base64.encode .standard n.trueNonce.bytes).toList
      (Text.Base64.encode .standard n.hash.bytes).toList) : s = n.text := by
  rw [← String.toList_inj, h.whole, n.cutOnce_text.whole]

/-! ## Whole texts -/

/-- A text is read as a compound nonce exactly if it is the text of that nonce. One direction is the
round trip; the other says that nothing else is read. -/
theorem parse_eq_ok_iff {s : String} {n : CompoundNonce} : parse s = .ok n ↔ s = n.text := by
  constructor
  · intro h
    unfold parse at h
    split at h
    · next m accepted =>
      cases h
      unfold read at accepted
      split at accepted
      · next front back halves =>
        obtain ⟨t, spelledFront, accepted⟩ := bind_eq_ok accepted
        obtain ⟨hash, spelledBack, accepted⟩ := bind_eq_ok accepted
        cases accepted
        have cut := Text.cutOnce_of_segments_eq halves
        rw [decodeHalf_eq_ok_iff.mp spelledFront, decodeHalf_eq_ok_iff.mp spelledBack] at cut
        exact text_eq_of_cutOnce (n := ⟨⟨t.1, t.2⟩, ⟨hash.1, hash.2⟩⟩) cut
      · cases accepted
    · cases h
  · rintro rfl
    have front : decodeHalf "true nonce" (Text.Base64.encode .standard n.trueNonce.bytes).toList =
        .ok ⟨n.trueNonce.bytes, n.trueNonce.length_bytes⟩ := decodeHalf_eq_ok_iff.mpr rfl
    have back : decodeHalf "fingerprint hash" (Text.Base64.encode .standard n.hash.bytes).toList =
        .ok ⟨n.hash.bytes, n.hash.length_bytes⟩ := decodeHalf_eq_ok_iff.mpr rfl
    have accepted : read n.text = .ok n := by
      simp only [read, n.cutOnce_text.segments_eq, front, back]
      rfl
    simp only [parse, accepted]

/-- The text of a compound nonce is well formed and spells that nonce. -/
theorem parse_text (n : CompoundNonce) : parse n.text = .ok n := parse_eq_ok_iff.mpr rfl

/-- Two compound nonces have two texts. -/
theorem text_inj {n m : CompoundNonce} (h : n.text = m.text) : n = m := by
  have read : parse n.text = .ok m := h ▸ parse_text m
  rw [parse_text] at read
  exact Except.ok.inj read

/-- A text is refused exactly if it is the text of no compound nonce, and there is one kind of
refusal. -/
theorem exists_parse_eq_error_iff {s : String} :
    (∃ reason, parse s = .error (.invalid reason)) ↔ ∀ n : CompoundNonce, s ≠ n.text := by
  constructor
  · rintro ⟨reason, refused⟩ n rfl
    rw [parse_text] at refused
    cases refused
  · intro foreign
    cases accepted : read s with
    | ok n =>
      have parsed : parse s = .ok n := by simp only [parse, accepted]
      exact absurd (parse_eq_ok_iff.mp parsed) (foreign n)
    | error d => exact ⟨d.message, by simp only [parse, accepted]⟩

/-! ## Misspelled texts -/

/-- What keeps a text from being that of a compound nonce. -/
inductive Misspelled (s : String) : Prop
  | noSeparator (free : separator ∉ s.toList)
  | extraSeparator (two : 2 ≤ s.toList.count separator)
  /-- One of the halves is what is written for no byte string. -/
  | notBase64 {front back half : List Char} (cut : CutOnce separator s.toList front back)
      (here : half = front ∨ half = back)
      (foreign : ∀ bytes, half ≠ (Text.Base64.encode .standard bytes).toList)
  /-- One of the halves is what is written for more or fewer bytes. -/
  | wrongLength {front back : List Char} {bytes : Bytes}
      (cut : CutOnce separator s.toList front back)
      (here : (Text.Base64.encode .standard bytes).toList = front ∨
        (Text.Base64.encode .standard bytes).toList = back)
      (other : bytes.length ≠ 32)

theorem Misspelled.ne_text {s : String} (h : Misspelled s) (n : CompoundNonce) : s ≠ n.text := by
  rintro rfl
  have once := Text.exists_cutOnce_iff.mp ⟨_, _, n.cutOnce_text⟩
  have written : ∀ {front back half : List Char}, CutOnce separator n.text.toList front back →
      half = front ∨ half = back →
        ∃ bytes, bytes.length = 32 ∧ half = (Text.Base64.encode .standard bytes).toList := by
    intro front back half cut here
    obtain ⟨rfl, rfl⟩ := n.cutOnce_text.unique cut
    rcases here with rfl | rfl
    · exact ⟨_, n.trueNonce.length_bytes, rfl⟩
    · exact ⟨_, n.hash.length_bytes, rfl⟩
  cases h with
  | noSeparator free => exact absurd (List.count_eq_zero_of_not_mem free) (by omega)
  | extraSeparator two => omega
  | notBase64 cut here foreign =>
    obtain ⟨bytes, -, spelled⟩ := written cut here
    exact foreign bytes spelled
  | wrongLength cut here other =>
    obtain ⟨bytes, length, spelled⟩ := written cut here
    apply other
    rw [Text.Base64.encode_inj .standard (String.toList_inj.mp spelled), length]

/-- A text with one separator whose halves are written for 32 bytes each is that of a compound
nonce, so whatever is not has one of the faults. -/
theorem misspelled_iff {s : String} : Misspelled s ↔ ∀ n : CompoundNonce, s ≠ n.text := by
  refine ⟨fun h n => h.ne_text n, fun foreign => ?_⟩
  rcases Nat.lt_trichotomy (s.toList.count separator) 1 with none | once | more
  · exact .noSeparator (List.count_eq_zero.mp (by omega))
  · obtain ⟨front, back, cut⟩ := Text.exists_cutOnce_iff.mpr once
    -- Each half is at fault, or gives its part of the nonce.
    have half : ∀ {cs}, cs = front ∨ cs = back → Misspelled s ∨
        ∃ bytes, bytes.length = 32 ∧ cs = (Text.Base64.encode .standard bytes).toList := by
      intro cs here
      by_cases spelled : ∃ bytes, cs = (Text.Base64.encode .standard bytes).toList
      · obtain ⟨bytes, rfl⟩ := spelled
        by_cases length : bytes.length = 32
        · exact .inr ⟨bytes, length, rfl⟩
        · exact .inl (.wrongLength cut here length)
      · exact .inl (.notBase64 cut here fun bytes same => spelled ⟨bytes, same⟩)
    rcases half (.inl rfl) with fault | ⟨t, lengthFront, rfl⟩
    · exact fault
    · rcases half (.inr rfl) with fault | ⟨hash, lengthBack, rfl⟩
      · exact fault
      · exact absurd (text_eq_of_cutOnce (n := ⟨⟨t, lengthFront⟩, ⟨hash, lengthBack⟩⟩) cut)
          (foreign _)
  · exact .extraSeparator more

/-! ## The format -/

/-- A text is read as a compound nonce exactly if it is the text of that nonce, so no two texts are
read as one, and both halves can be told from the text. What a binder makes is read back as the true
nonce and the stretched hash. Every other text is refused as invalid: it has no separator or more
than one, or a half that is not base64 or not base64 of 32 bytes. -/
theorem spelled_once :
    (∀ s n, parse s = .ok n ↔ s = n.text) ∧
      (∀ s s' n, parse s = .ok n → parse s' = .ok n → s = s') ∧
      (∀ t t' h h', text ⟨t, h⟩ = text ⟨t', h'⟩ → t = t' ∧ h = h') ∧
      (∀ (H : Digest) (t : TrueNonce) (f : Fingerprint) (salt : Salt),
        parse (text ⟨t, stretch H f.bytes salt.bytes⟩) = .ok ⟨t, stretch H f.bytes salt.bytes⟩ ∧
          ∀ b : Binder, b.Reachable H →
            parse (b.bind H t f salt).1.text = .ok ⟨t, stretch H f.bytes salt.bytes⟩) ∧
      ∀ s, ((∃ reason, parse s = .error (.invalid reason)) ↔ Misspelled s) ∧
        (Misspelled s ↔ ∀ n : CompoundNonce, s ≠ n.text) := by
  refine ⟨fun s n => parse_eq_ok_iff, ?_, ?_, ?_, ?_⟩
  · intro s s' n first second
    rw [parse_eq_ok_iff.mp first, parse_eq_ok_iff.mp second]
  · intro t t' h h' same
    have parts := text_inj same
    simpa only [CompoundNonce.mk.injEq] using parts
  · intro H t f salt
    refine ⟨parse_text _, fun b reach => ?_⟩
    rw [Binder.bind_fst reach, parse_text]
  · intro s
    exact ⟨exists_parse_eq_error_iff.trans misspelled_iff.symm, misspelled_iff⟩

/-- The two halves of zeros have one spelling. The text in which the last symbol has a bit that
belongs to no byte is misspelled, and is not read as the same nonce. -/
theorem spelled_once_zeros :
    let n : CompoundNonce := ⟨⟨List.replicate 32 0, List.length_replicate⟩, .zero⟩
    let zeros := String.ofList (List.replicate 42 'A')
    let s := zeros ++ "A=&" ++ zeros ++ "A="
    let s' := zeros ++ "A=&" ++ zeros ++ "B="
    parse s = .ok n ∧ Misspelled s' ∧ s' ≠ n.text := by
  intro n zeros s s'
  obtain ⟨reads, -, -, -, refuses⟩ := spelled_once
  have written : s = n.text := by decide +kernel
  have refused : parse s' = .error (.invalid
      "fingerprint hash is not base64: Invalid last symbol 66, offset 42.") := by decide +kernel
  have fault : Misspelled s' := (refuses s').1.mp ⟨_, refused⟩
  exact ⟨(reads s n).mpr written, fault, (refuses s').2.mp fault n⟩

end TokenBinding.CompoundNonce
