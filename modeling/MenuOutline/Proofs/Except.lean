import Mathlib.Logic.Basic

namespace MenuOutline

variable {ε ε' α β : Type} {x : Except ε α} {f : α → Except ε β} {a : α} {b : β}

theorem bind_eq_ok_iff : (x >>= f) = .ok b ↔ ∃ a, x = .ok a ∧ f a = .ok b := by
  cases x <;> simp [bind, Except.bind]

theorem bind_eq_error_iff {e : ε} :
    (x >>= f) = .error e ↔ x = .error e ∨ ∃ a, x = .ok a ∧ f a = .error e := by
  cases x <;> simp [bind, Except.bind]

theorem bind_ne_error {e : ε} (hx : x ≠ .error e) (hf : ∀ a, f a ≠ .error e) :
    (x >>= f) ≠ .error e := by
  cases x
  case error => exact fun h => hx <| Except.error.inj h ▸ rfl
  case ok a  => exact hf a

theorem map_eq_ok_iff {g : α → β} : x.map g = .ok b ↔ ∃ a, x = .ok a ∧ g a = b := by
  cases x <;> simp [Except.map]

theorem mapError_eq_ok_iff {g : ε → ε'} : x.mapError g = .ok a ↔ x = .ok a := by
  cases x
  case error => exact ⟨nofun, nofun⟩
  case ok =>
    constructor <;>
    · intro h
      cases h
      rfl

end MenuOutline
