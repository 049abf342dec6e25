import Mathlib.Tactic.Common

/-!
# Computations that may fail

What a sequence of fallible computations did when it succeeded.
-/

namespace Lib

/-- Both parts of a computation that succeeded have succeeded. -/
theorem bind_eq_ok {ε α β : Type} {x : Except ε α} {f : α → Except ε β} {b : β}
    (h : (x >>= f) = .ok b) : ∃ a, x = .ok a ∧ f a = .ok b := by
  cases x with
  | error e => cases h
  | ok a => exact ⟨a, rfl, h⟩

end Lib
