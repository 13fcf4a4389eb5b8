/-!
# Rows of steps that may refuse

A reader is a row of steps, and it accepts if each of them does. These lemmas take such a row apart
from its end, one step at a time.
-/

namespace TokenBinding

variable {ε α β : Type}

/-- A step that is followed by another has accepted. -/
theorem bind_eq_ok {x : Except ε α} {f : α → Except ε β} {b : β} (h : x >>= f = .ok b) :
    ∃ a, x = .ok a ∧ f a = .ok b := by
  cases x with
  | error e => cases h
  | ok a => exact ⟨a, rfl, h⟩

/-- So has one whose value is put to use. -/
theorem map_eq_ok {x : Except ε α} {f : α → β} {b : β} (h : x.map f = .ok b) :
    ∃ a, x = .ok a ∧ f a = b := by
  cases x with
  | error e => cases h
  | ok a => exact ⟨a, rfl, Except.ok.inj h⟩

end TokenBinding
