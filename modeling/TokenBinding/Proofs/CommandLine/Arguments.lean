import TokenBinding.CommandLine.Command

/-!
# Words that ask for a command

The words of an option, one after the other, are taken off together (`Scan.run_option`), and so the
plain way to write a command asks for it. A value is taken as it is, as long as it does not look
like an option itself.
-/

namespace TokenBinding.CommandLine

/-- Where no command can begin, a word that can be taken is taken. -/
theorem Scan.run_cons {g : Grammar} {s s' : Scan} {word : String} (inner : g.commands = [])
    (taken : s.step g word = .ok s') (rest : List String) :
    run g s (word :: rest) = run g s' rest := by
  have noCommand : ¬s.beginsCommand g word = true := by
    simp only [beginsCommand, inner, List.contains_nil, Bool.and_false, Bool.false_eq_true,
      not_false_eq_true]
  rw [run, if_neg noCommand, taken]
  rfl

/-- An option that has not been given yet is taken with the word behind it. -/
theorem Scan.run_option {g : Grammar} {found : Matches} {word name value : String}
    (inner : g.commands = []) (option : Shape.of word = .long name none)
    (known : g.options.lookup name = some .any) (new : found.options.lookup name = none)
    (plain : Shape.of value = .ordinary) (rest : List String) :
    run g { found } (word :: value :: rest) =
      run g { found := { found with options := found.options ++ [(name, value)] } } rest := by
  have first : step g { found } word = .ok { found, pending? := some (name, .any) } := by
    simp only [step, option, addLong, known, Bool.false_eq_true, if_false]
  have second : step g { found, pending? := some (name, .any) } value =
      .ok { found := { found with options := found.options ++ [(name, value)] } } := by
    simp only [step, plain, addOption, new, ValueKind.admits, Option.isNone_none, and_self, if_true,
      Bool.false_eq_true, if_false]
  rw [run_cons inner first, run_cons inner second]

/-- An ordinary word is taken as long as there may be more of them. -/
theorem Scan.run_positional {g : Grammar} {found : Matches} {word : String}
    (inner : g.commands = []) (plain : Shape.of word = .ordinary)
    (room : found.positionals.length < g.positionals) (rest : List String) :
    run g { found } (word :: rest) =
      run g { found := { found with positionals := found.positionals ++ [word] } } rest := by
  have taken : step g { found } word =
      .ok { found := { found with positionals := found.positionals ++ [word] } } := by
    simp only [step, plain, addPositional, room, if_true, Bool.false_eq_true, if_false]
  rw [run_cons inner taken]

/-- A word that does not begin with a hyphen is ordinary. -/
theorem Shape.of_eq_ordinary {word : String} (free : word.toList.head? ≠ some '-') :
    Shape.of word = .ordinary := by
  unfold Shape.of
  split
  · next separator => exact absurd (by rw [separator]; rfl) free
  · next long => exact absurd (by rw [long]; rfl) free
  · next short => exact absurd (by rw [short]; rfl) free
  · rfl

namespace Invocation

variable {fingerprint salt nonce : String}

theorem parse_nonce (plainFingerprint : Shape.of fingerprint = .ordinary)
    (plainSalt : Shape.of salt = .ordinary) :
    parse ["nonce", "--fingerprint", fingerprint, "--salt", salt] =
      .ok ⟨none, .nonce fingerprint (some salt)⟩ := by
  show parseCommand {} "nonce" ["--fingerprint", fingerprint, "--salt", salt] = _
  simp only [parseCommand, Command.grammar?]
  rw [Scan.run_option rfl rfl rfl rfl plainFingerprint, Scan.run_option rfl rfl rfl rfl plainSalt]
  rfl

theorem parse_stretch (plainFingerprint : Shape.of fingerprint = .ordinary)
    (plainSalt : Shape.of salt = .ordinary) :
    parse ["stretch", "--fingerprint", fingerprint, "--salt", salt] =
      .ok ⟨none, .stretch ⟨fingerprint, salt⟩⟩ := by
  show parseCommand {} "stretch" ["--fingerprint", fingerprint, "--salt", salt] = _
  simp only [parseCommand, Command.grammar?]
  rw [Scan.run_option rfl rfl rfl rfl plainFingerprint, Scan.run_option rfl rfl rfl rfl plainSalt]
  rfl

theorem parse_parseNonce (plainNonce : Shape.of nonce = .ordinary) :
    parse ["parse-nonce", nonce] = .ok ⟨none, .parseNonce nonce none⟩ := by
  show parseCommand {} "parse-nonce" [nonce] = _
  simp only [parseCommand, Command.grammar?]
  rw [Scan.run_positional rfl plainNonce]
  · rfl
  · exact Nat.zero_lt_one

/-- The command that shows a nonce and checks what it is bound to. -/
theorem parse_parseNonce_binding (plainNonce : Shape.of nonce = .ordinary)
    (plainFingerprint : Shape.of fingerprint = .ordinary) (plainSalt : Shape.of salt = .ordinary) :
    parse ["parse-nonce", nonce, "--fingerprint", fingerprint, "--salt", salt] =
      .ok ⟨none, .parseNonce nonce (some ⟨fingerprint, salt⟩)⟩ := by
  show parseCommand {} "parse-nonce" [nonce, "--fingerprint", fingerprint, "--salt", salt] = _
  simp only [parseCommand, Command.grammar?]
  rw [Scan.run_positional rfl plainNonce, Scan.run_option rfl rfl rfl rfl plainFingerprint,
    Scan.run_option rfl rfl rfl rfl plainSalt]
  · rfl
  · exact Nat.zero_lt_one

end Invocation

end TokenBinding.CommandLine
