/-!
# Bytes

Byte strings are lists, so that every codec of the library is a recursion on its input and every
law about it an induction. Texts are `String`; the two meet in UTF-8 only (`ofText`, `toText?`).

The main statement is `toText?_ofText`: a text is read back from its own bytes. `toText?` refuses
every byte string that is not the UTF-8 of some text.
-/

namespace TokenBinding

/-- A byte string. -/
abbrev Bytes := List UInt8

namespace Bytes

/-- The UTF-8 bytes of a text. -/
def ofText (s : String) : Bytes := s.toList.flatMap String.utf8EncodeChar

/-- The text that these bytes are the UTF-8 of, if there is one. -/
def toText? (bs : Bytes) : Option String := String.fromUTF8? bs.toByteArray

theorem toByteArray_ofText (s : String) : (ofText s).toByteArray = s.toByteArray := by
  have h : (String.ofList s.toList).toByteArray = s.toList.utf8Encode := String.toByteArray_ofList
  rw [String.ofList_toList] at h
  rw [h]
  rfl

/-- A text is read back from its bytes. -/
@[simp] theorem toText?_ofText (s : String) : toText? (ofText s) = some s := by
  rw [toText?, toByteArray_ofText, String.fromUTF8?]
  exact dif_pos s.isValidUTF8

/-- The last `width` bytes of a number, most significant first. -/
def bigEndian : (width : Nat) → Nat → Bytes
  | 0, _ => []
  | width + 1, n => UInt8.ofNat (n >>> (8 * width)) :: bigEndian width n

@[simp] theorem length_bigEndian (width n : Nat) : (bigEndian width n).length = width := by
  induction width with
  | zero => rfl
  | succ width ih => simp [bigEndian, ih]

end Bytes

end TokenBinding
