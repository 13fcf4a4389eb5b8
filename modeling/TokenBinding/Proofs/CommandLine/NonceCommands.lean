import TokenBinding.CommandLine.Run
import TokenBinding.Proofs.Bundle.Grammar
import TokenBinding.Proofs.CommandLine.Arguments
import TokenBinding.Proofs.Nonce.Spelling
import TokenBinding.Proofs.Text.Hex

/-!
# The commands on nonces agree

Three commands read a fingerprint and a salt, each on its own: the one that forms a nonce, the one
that stretches a fingerprint, and the one that takes a nonce apart and checks what it is bound to.
They agree on what a text denotes: a fingerprint is hexadecimal in either case between blanks
(`HexText`), a salt is base64 in its one spelling between blanks (`SaltText`).

The statement is about the program on words that ask for one of the commands, whatever else is in
them, on a host on which it gets to its command (`Host.Reaches`). On other hosts it fails before any
command is looked at. A host here is one whose answers are given; the true nonce it draws may be
any.

What it does not establish. Two texts that denote different pairs may stretch to one hash, and then
the check passes under both. What the program says of a text that denotes nothing is not settled
here, only that it fails.

Main statement: `nonce_commands_agree`.
-/

namespace TokenBinding.CommandLine

open Text (Trims)

/-! ## Texts -/

/-- The text is hexadecimal for the bytes, between blanks. -/
def HexText (s : String) (bytes : Bytes) : Prop :=
  ∃ digits, Trims s.toList digits ∧ Text.Hex.Spells digits bytes

/-- The text is base64 for the salt, between blanks. -/
def SaltText (s : String) (salt : Salt) : Prop := Trims s.toList salt.toBase64.toList

/-- A fingerprint is read exactly from the texts for it, whatever the option is called in the
failure. -/
theorem readHex_eq_ok_iff {what s : String} {bytes : Bytes} :
    readHex what s = .ok bytes ↔ HexText s bytes := by
  have decoded : readHex what s = .ok bytes ↔ Text.Hex.decode (Text.trim s) = .ok bytes := by
    unfold readHex
    split
    · next h => simp only [h, Except.ok.injEq]
    · next h => simp only [h, reduceCtorEq]
  rw [decoded, Text.Hex.decode_eq_ok_iff, Text.trim, String.toList_ofList]
  constructor
  · intro spells
    exact ⟨_, Text.trims_trimChars s.toList, spells⟩
  · rintro ⟨digits, trims, spells⟩
    rwa [trims.eq]

/-- A salt is read exactly from the texts for it. -/
theorem readSalt_eq_ok_iff {s : String} {salt : Salt} :
    readSalt s = .ok salt ↔ SaltText s salt := by
  have decoded : readSalt s = .ok salt ↔ Salt.ofBase64 (Text.trim s) = .ok salt := by
    unfold readSalt
    split
    · next h => simp only [h, Except.ok.injEq]
    · next h => simp only [h, reduceCtorEq]
  rw [decoded]
  exact Bundle.ofBase64_trimChars_iff

/-- A character of base64 is not blank and is no hyphen. -/
theorem plain_of_mem_encode {bs : Bytes} {c : Char}
    (h : c ∈ (Text.Base64.encode .standard bs).toList) : Text.isBlank c = false ∧ c ≠ '-' := by
  have symbols : ∀ n < 64, Char.ofNat (Text.Base64.Alphabet.standard.symbol n).toNat ≠ '-' := by
    decide
  refine ⟨(Text.Base64.not_separator_of_mem_encode .standard h).1, ?_⟩
  simp only [Text.Base64.encode, String.toList_ofList, List.mem_map] at h
  obtain ⟨s, mem, rfl⟩ := h
  rcases Text.Base64.mem_encodeSymbols .standard mem with ⟨n, bound, rfl⟩ | rfl
  · exact symbols n bound
  · decide

/-- So is a character of a compound nonce. -/
theorem plain_of_mem_text {n : CompoundNonce} {c : Char} (h : c ∈ n.text.toList) :
    Text.isBlank c = false ∧ c ≠ '-' := by
  rw [n.cutOnce_text.whole] at h
  rcases List.mem_append.mp h with front | behind
  · exact plain_of_mem_encode front
  · rcases List.mem_cons.mp behind with rfl | back
    · decide
    · exact plain_of_mem_encode back

/-- What is written for a salt is a text for it. -/
theorem saltText_toBase64 (salt : Salt) : SaltText salt.toBase64 salt := by
  apply Text.trims_iff.mpr
  exact Text.trimChars_of_not_blank fun _ mem => (plain_of_mem_encode mem).1

/-- A compound nonce has no blanks around it, so it is parsed as it was printed. -/
theorem trim_text (n : CompoundNonce) : Text.trim n.text = n.text := by
  rw [Text.trim, Text.trimChars_of_not_blank fun _ mem => (plain_of_mem_text mem).1,
    String.ofList_toList]

/-! ## Words -/

/-- A word without hyphens looks like no option. -/
theorem ordinary_of_not_mem {word : String} (free : '-' ∉ word.toList) :
    Shape.of word = .ordinary :=
  Shape.of_eq_ordinary fun head => free (List.mem_of_mem_head? head)

/-- A text for a fingerprint is taken for a value on the command line, and never for an option: no
digit is a hyphen. -/
theorem HexText.ordinary {s : String} {bytes : Bytes} (h : HexText s bytes) :
    Shape.of s = .ordinary := by
  obtain ⟨digits, trims, spells⟩ := h
  apply ordinary_of_not_mem
  intro mem
  obtain ⟨n, digit⟩ := spells.exists_isDigit (trims.mem rfl mem)
  exact digit.plain.2.2 rfl

/-- So is a text for a salt. -/
theorem SaltText.ordinary {s : String} {salt : Salt} (h : SaltText s salt) :
    Shape.of s = .ordinary := by
  apply ordinary_of_not_mem
  intro mem
  exact (plain_of_mem_encode (Trims.mem h rfl mem)).2 rfl

/-- So is a compound nonce. -/
theorem ordinary_text (n : CompoundNonce) : Shape.of n.text = .ordinary :=
  ordinary_of_not_mem fun mem => (plain_of_mem_text mem).2 rfl

/-! ## Getting to a command -/

/-- What is done before a command is run: the configuration is read and the log is opened. -/
def opened (host : Host Id) (path : String) : Except Failure Configuration :=
  let loaded : Action Id Configuration := do
    let c ← loadConfiguration host path
    openLog host c.logging
    return c
  loaded.run

/-- On these words the program gets to the command: they ask for it, the configuration can be read,
and the log can be opened. -/
def Host.Reaches (host : Host Id) (words : List String) (command : Command) : Prop :=
  ∃ path? c, Invocation.parse words = .ok ⟨path?, command⟩ ∧
    opened host (path?.getD host.configPath) = .ok c

variable {H : Digest} {host : Host Id} {words : List String} {f s : String} {fb : Bytes}
  {salt : Salt}

/-- Where the program gets to a command, the output is that of the command. -/
theorem Host.Reaches.execute_eq {command : Command} (h : host.Reaches words command)
    (other : ∀ force, command ≠ .initConfig force) :
    ∃ c, execute H host words = .ofResult (runConfigured (m := Id) H host c command) := by
  obtain ⟨path?, c, asks, ready⟩ := h
  -- This host answers at once, so the steps of `run` are taken one after the other.
  have pure_id {α : Type} (a : α) : (pure a : Id α) = a := rfl
  have bind_id {α β : Type} (a : Id α) (next : α → Id β) : (a >>= next) = next a := rfl
  have reached : run H host ⟨path?, command⟩ = runConfigured (m := Id) H host c command := by
    unfold opened at ready
    cases command with
    | initConfig force => exact absurd rfl (other force)
    | _ =>
      cases path? with
      | none =>
        rw [Option.getD_none] at ready
        simp only [run, bind_id, ready]
      | some path =>
        rw [Option.getD_some] at ready
        simp only [run, pure_id, bind_id, ready]
  refine ⟨c, ?_⟩
  simp only [execute, asks]
  rw [reached]
  rfl

/-- On a host that gets to it, the output is that of forming a nonce. -/
theorem Host.Reaches.execute_nonce {salt? : Option String}
    (h : host.Reaches words (.nonce f salt?)) :
    execute H host words =
      .ofResult (.ofExcept (nonceLines H host.trueNonce host.salt f salt?)) := by
  obtain ⟨c, output⟩ := h.execute_eq (H := H) nofun
  exact output

/-- Here it is that of stretching a fingerprint. -/
theorem Host.Reaches.execute_stretch (h : host.Reaches words (.stretch ⟨f, s⟩)) :
    execute H host words = .ofResult (.ofExcept (stretchLines H f s)) := by
  obtain ⟨c, output⟩ := h.execute_eq (H := H) nofun
  exact output

/-- Here it is that of taking a nonce apart, with a check if a fingerprint and a salt are given. -/
theorem Host.Reaches.execute_parseNonce {text : String} {binding? : Option BindingArguments}
    (h : host.Reaches words (.parseNonce text binding?)) :
    execute H host words =
      .ofResult (parseNonce H text (binding?.map fun b => (b.fingerprint, b.salt))) := by
  obtain ⟨c, output⟩ := h.execute_eq (H := H) nofun
  exact output

/-- The plain way to write the commands gets to them, as long as the texts denote something. -/
theorem Host.reaches_words {c : Configuration} (ready : opened host host.configPath = .ok c)
    (fingerprint : HexText f fb) (salted : SaltText s salt) (n : CompoundNonce) :
    host.Reaches ["nonce", "--fingerprint", f, "--salt", s] (.nonce f (some s)) ∧
    host.Reaches ["stretch", "--fingerprint", f, "--salt", s] (.stretch ⟨f, s⟩) ∧
    host.Reaches ["parse-nonce", n.text] (.parseNonce n.text none) ∧
    host.Reaches ["parse-nonce", n.text, "--fingerprint", f, "--salt", s]
      (.parseNonce n.text (some ⟨f, s⟩)) := by
  have plainFingerprint := fingerprint.ordinary
  have plainSalt := salted.ordinary
  have plainNonce := ordinary_text n
  exact ⟨⟨none, c, Invocation.parse_nonce plainFingerprint plainSalt, ready⟩,
    ⟨none, c, Invocation.parse_stretch plainFingerprint plainSalt, ready⟩,
    ⟨none, c, Invocation.parse_parseNonce plainNonce, ready⟩,
    ⟨none, c, Invocation.parse_parseNonce_binding plainNonce plainFingerprint plainSalt, ready⟩⟩

/-- The program ends with zero exactly if the command did not fail. -/
theorem exitCode_eq_zero_iff {r : Result} :
    (Output.ofResult r).exitCode = 0 ↔ r.failure? = none := by
  obtain ⟨lines, failure?⟩ := r
  cases failure? with
  | none => exact iff_of_true rfl rfl
  | some failure =>
    have failed : (1 : UInt8) ≠ 0 := by decide
    exact iff_of_false failed nofun

/-- A result that was made of lines or a failure fails exactly if there are no lines. -/
theorem failure?_ofExcept_iff {r : Except Failure (List String)} :
    (Result.ofExcept r).failure? = none ↔ ∃ lines, r = .ok lines := by
  cases r with
  | ok lines => exact iff_of_true rfl ⟨lines, rfl⟩
  | error failure => exact iff_of_false nofun nofun

/-! ## The commands -/

/-- Under texts of a fingerprint and a salt the stretched hash is printed, in hexadecimal. -/
theorem stretchLines_of_texts (fingerprint : HexText f fb) (salted : SaltText s salt) :
    stretchLines H f s = .ok [(stretch H fb salt.bytes).toHex] := by
  simp only [stretchLines, readHex_eq_ok_iff.mpr fingerprint, readSalt_eq_ok_iff.mpr salted]
  rfl

/-- Under such texts the salt is printed in its one spelling, and with it the nonce of the true
nonce that was drawn. The fresh salt plays no part. -/
theorem nonceLines_of_texts (trueNonce : TrueNonce) (fresh : Salt) (fingerprint : HexText f fb)
    (salted : SaltText s salt) :
    nonceLines H trueNonce fresh f (some s) =
      .ok ["salt:  " ++ salt.toBase64,
        "nonce: " ++ CompoundNonce.text ⟨trueNonce, stretch H fb salt.bytes⟩] := by
  have bound : (Binder.bind H {} trueNonce ⟨fb⟩ salt).1 = ⟨trueNonce, stretch H fb salt.bytes⟩ :=
    Binder.bind_fst .empty trueNonce ⟨fb⟩ salt
  simp only [nonceLines, readHex_eq_ok_iff.mpr fingerprint, readSalt_eq_ok_iff.mpr salted]
  show Except.ok _ = _
  rw [bound]

/-- A nonce is formed only under texts of a fingerprint and a salt. -/
theorem exists_texts_of_nonceLines {trueNonce : TrueNonce} {fresh : Salt} {lines : List String}
    (h : nonceLines H trueNonce fresh f (some s) = .ok lines) :
    ∃ fb salt, HexText f fb ∧ SaltText s salt := by
  obtain ⟨fb, fingerprint, h⟩ := bind_eq_ok h
  obtain ⟨salt, salted, -⟩ := bind_eq_ok h
  exact ⟨fb, salt, readHex_eq_ok_iff.mp fingerprint, readSalt_eq_ok_iff.mp salted⟩

/-- A compound nonce passes the check exactly under texts that stretch to its hash. -/
theorem bindingLines_eq_ok_iff {n : CompoundNonce} :
    (∃ lines, bindingLines H n.text f s = .ok lines) ↔
      ∃ fb salt, HexText f fb ∧ SaltText s salt ∧ stretch H fb salt.bytes = n.hash := by
  have checked (fb : Bytes) (salt : Salt) :
      (Binder.check H {} (some n.text) ⟨fb⟩ salt).1 = .ok () ↔
        stretch H fb salt.bytes = n.hash := by
    rw [Binder.check_fst .empty, Binder.verdict, CompoundNonce.parse_text]
    by_cases same : n.hash = stretch H fb salt.bytes
    · exact iff_of_true (if_pos same) same.symm
    · refine iff_of_false ?_ (Ne.symm same)
      simp only [if_neg same, reduceCtorEq, not_false_eq_true]
  constructor
  · rintro ⟨lines, h⟩
    obtain ⟨fb, fingerprint, h⟩ := bind_eq_ok h
    obtain ⟨salt, salted, h⟩ := bind_eq_ok h
    refine ⟨fb, salt, readHex_eq_ok_iff.mp fingerprint, readSalt_eq_ok_iff.mp salted, ?_⟩
    split at h
    · next passed => exact (checked fb salt).mp passed
    · cases h
  · rintro ⟨fb, salt, fingerprint, salted, same⟩
    refine ⟨["✅ Bound to the given fingerprint and salt"], ?_⟩
    simp only [bindingLines, readHex_eq_ok_iff.mpr fingerprint, readSalt_eq_ok_iff.mpr salted,
      bind, Except.bind, (checked fb salt).mpr same]
    rfl

/-- A compound nonce that was printed is taken apart again. -/
theorem parseNonce_text (n : CompoundNonce) :
    parseNonce H n.text none = { lines := partLines n } := by
  simp only [parseNonce, trim_text, CompoundNonce.parse_text]

/-- Taking a nonce apart with a check succeeds exactly under texts that stretch to its hash. -/
theorem failure?_parseNonce_iff {n : CompoundNonce} :
    (parseNonce H n.text (some (f, s))).failure? = none ↔
      ∃ fb salt, HexText f fb ∧ SaltText s salt ∧ stretch H fb salt.bytes = n.hash := by
  simp only [parseNonce, trim_text, CompoundNonce.parse_text]
  rw [failure?_ofExcept_iff, bindingLines_eq_ok_iff]

/-! ## Agreement -/

/-- A nonce is formed exactly under texts of a fingerprint and a salt. The nonce that is printed is
taken apart into the true nonce that was drawn and the hash that stretching these texts prints. It
passes the check under all texts that stretch to that hash and under no others. The salt that is
printed with it is a text for the same salt. What is printed of the two halves is read as their
bytes. -/
theorem nonce_commands_agree (H : Digest) {host : Host Id} {words : List String} {f s : String}
    (asks : host.Reaches words (.nonce f (some s))) :
    ((execute H host words).exitCode = 0 ↔ ∃ fb salt, HexText f fb ∧ SaltText s salt) ∧
    ∀ fb salt, HexText f fb → SaltText s salt →
      let n : CompoundNonce := ⟨host.trueNonce, stretch H fb salt.bytes⟩
      execute H host words =
          { standardOutput := ["salt:  " ++ salt.toBase64, "nonce: " ++ n.text] } ∧
        readSalt s = .ok salt ∧ readSalt salt.toBase64 = .ok salt ∧
        Text.Hex.decode n.hash.toHex = .ok (stretch H fb salt.bytes).bytes ∧
        Text.Base64.decode .standard (Text.Base64.encode .standard host.trueNonce.bytes) =
          .ok host.trueNonce.bytes ∧
        ∀ (host' : Host Id) (words' : List String),
          (host'.Reaches words' (.stretch ⟨f, s⟩) →
            execute H host' words' = { standardOutput := [n.hash.toHex] }) ∧
          (host'.Reaches words' (.parseNonce n.text none) →
            execute H host' words' = {
              standardOutput := [
                "true nonce:       " ++ Text.Base64.encode .standard host.trueNonce.bytes,
                "fingerprint hash: " ++ n.hash.toHex] }) ∧
          ∀ f' s', host'.Reaches words' (.parseNonce n.text (some ⟨f', s'⟩)) →
            ((execute H host' words').exitCode = 0 ↔
              ∃ fb' salt', HexText f' fb' ∧ SaltText s' salt' ∧
                stretch H fb' salt'.bytes = stretch H fb salt.bytes) := by
  constructor
  · rw [asks.execute_nonce, exitCode_eq_zero_iff, failure?_ofExcept_iff]
    constructor
    · rintro ⟨lines, accepted⟩
      exact exists_texts_of_nonceLines accepted
    · rintro ⟨fb, salt, fingerprint, salted⟩
      exact ⟨_, nonceLines_of_texts _ _ fingerprint salted⟩
  · intro fb salt fingerprint salted n
    refine ⟨?nonce, readSalt_eq_ok_iff.mpr salted, readSalt_eq_ok_iff.mpr (saltText_toBase64 salt),
      Text.Hex.decode_encode _, Text.Base64.decode_eq_ok_iff.mpr rfl,
      fun host' words' => ⟨fun asks' => ?stretch, fun asks' => ?parts, fun f' s' asks' => ?check⟩⟩
    case nonce =>
      rw [asks.execute_nonce, nonceLines_of_texts _ _ fingerprint salted]
      rfl
    case stretch =>
      rw [asks'.execute_stretch, stretchLines_of_texts fingerprint salted]
      rfl
    case parts =>
      rw [asks'.execute_parseNonce, Option.map_none, parseNonce_text]
      rfl
    case check =>
      rw [asks'.execute_parseNonce, exitCode_eq_zero_iff]
      exact failure?_parseNonce_iff

/-- A host with no files. -/
def bareHost (trueNonce : TrueNonce) (salt : Salt) : Host Id where
  configPath := "config.toml"
  isThere _ := false
  readFile _ := .error .notFound
  writeFile _ _ := .error .notFound
  makeParents _ := .error .notFound
  openLog _ := .error .notFound
  trueNonce := trueNonce
  salt := salt
  now := 0
  web := .unreachable

/-- A fingerprint in mixed case and a salt, each between blanks, and then both written otherwise. -/
theorem nonce_commands_agree_spellings :
    let host := bareHost ⟨List.replicate 32 7, List.length_replicate⟩ ⟨[]⟩
    ∃ n : CompoundNonce, Text.Hex.decode n.hash.toHex = .ok n.hash.bytes ∧
      execute .sha512 host ["nonce", "--fingerprint", " 0aFf\n", "--salt", "CQkJ "] =
        { standardOutput := ["salt:  CQkJ", "nonce: " ++ n.text] } ∧
      (execute .sha512 host
        ["parse-nonce", n.text, "--fingerprint", "0AfF", "--salt", "\tCQkJ"]).exitCode = 0 := by
  intro host
  have ready : opened host host.configPath = .ok {} := rfl
  have fingerprint : HexText " 0aFf\n" [10, 255] :=
    readHex_eq_ok_iff.mp (show readHex "fingerprint" _ = _ by decide +kernel)
  have fingerprint' : HexText "0AfF" [10, 255] :=
    readHex_eq_ok_iff.mp (show readHex "fingerprint" _ = _ by decide +kernel)
  have salted : SaltText "CQkJ " ⟨[9, 9, 9]⟩ := readSalt_eq_ok_iff.mp (by decide +kernel)
  have salted' : SaltText "\tCQkJ" ⟨[9, 9, 9]⟩ := readSalt_eq_ok_iff.mp (by decide +kernel)
  let n : CompoundNonce := ⟨host.trueNonce, stretch .sha512 [10, 255] [9, 9, 9]⟩
  have asks := (Host.reaches_words ready fingerprint salted n).1
  have asks' := (Host.reaches_words ready fingerprint' salted' n).2.2.2
  obtain ⟨output, -, -, hash, -, agree⟩ :=
    (nonce_commands_agree .sha512 asks).2 [10, 255] ⟨[9, 9, 9]⟩ fingerprint salted
  exact ⟨n, hash, output, ((agree host _).2.2 _ _ asks').mpr ⟨_, _, fingerprint', salted', rfl⟩⟩

end TokenBinding.CommandLine
