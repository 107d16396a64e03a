import Recrawl.Bytes

/-!
Computations that may fail. If one after the other gives a result, so did the first of them.
-/

namespace Recrawl

variable {ε α β : Type} {b : β}

theorem ok_bind (a : α) (next : α → Except ε β) : (Except.ok a >>= next) = next a := rfl

theorem exists_of_bind_eq_ok {first : Except ε α} {next : α → Except ε β}
    (h : first >>= next = .ok b) : ∃ a, first = .ok a ∧ next a = .ok b := by
  cases first with
  | error fault => cases h
  | ok a => exact ⟨a, rfl, h⟩

theorem map_eq_ok_iff {first : Except ε α} {f : α → β} :
    first.map f = .ok b ↔ ∃ a, first = .ok a ∧ f a = b := by
  cases first <;> simp [Except.map]

end Recrawl
