import TokenBinding.Nonce.Basic
import TokenBinding.Text.Blank
import TokenBinding.Text.Segments

/-!
# Token bundles

What one party sends to the other: the salt in base64, `?`, and the tokens with `;` between them.
Neither base64 nor a compact token has one of these characters, but a token is written as it is,
whether it is a compact token or not.

Reading allows blanks around the salt and around each token, and discards empty tokens. A bundle
without tokens is a bundle. The number of `?` is looked at before the salt.
-/

namespace TokenBinding

/-- A salt and the tokens whose nonces are bound under it. -/
structure Bundle where
  salt : Salt
  tokens : List String
  deriving Repr, DecidableEq

/-- Why a text is no bundle. -/
inductive BundleError where
  | missingSeparator
  | extraSeparator
  | invalidSalt (reason : String)
  deriving Repr, DecidableEq

/-- The wording of a refusal. -/
def BundleError.message : BundleError → String
  | .missingSeparator => "Bundle has no salt separator"
  | .extraSeparator => "Bundle has more than one salt separator"
  | .invalidSalt reason => "Bundle salt is not valid base64: " ++ reason

namespace Bundle

/-- What stands between the salt and the tokens. -/
def saltSeparator : Char := '?'

/-- What stands between two tokens. -/
def tokenSeparator : Char := ';'

/-- Whether there are no tokens. -/
def isEmpty (b : Bundle) : Bool := b.tokens.isEmpty

/-- The tokens of the part behind the salt. -/
def parseTokens (cs : List Char) : List String :=
  (((Text.segments tokenSeparator cs).map Text.trimChars).filter (· ≠ [])).map String.ofList

/-- The bundle that a text spells. -/
def parse (wire : String) : Except BundleError Bundle :=
  match Text.cut? saltSeparator wire.toList with
  | none => .error .missingSeparator
  | some (front, back) =>
    if saltSeparator ∈ back then .error .extraSeparator
    else
      match Salt.ofBase64 (String.ofList (Text.trimChars front)) with
      | .error e => .error (.invalidSalt e.message)
      | .ok salt => .ok ⟨salt, parseTokens back⟩

/-- The text of a bundle. -/
def toWire (b : Bundle) : String :=
  b.salt.toBase64 ++ String.singleton saltSeparator ++
    String.ofList (Text.join tokenSeparator (b.tokens.map String.toList))

end Bundle

end TokenBinding
