import Mathlib

/-!
# Computations that may fail

When a computation that may fail has succeeded, so have its parts.
-/

namespace Except

variable {ε α β : Type}

theorem bind_eq_ok_iff {x : Except ε α} {f : α → Except ε β} {b : β} :
    (x >>= f) = .ok b ↔ ∃ a, x = .ok a ∧ f a = .ok b := by
  cases x <;> simp [bind, Except.bind]

theorem ite_eq_ok_iff {P : Prop} [Decidable P] {a b : α} {e : ε} :
    (if P then Except.ok a else Except.error e) = .ok b ↔ P ∧ b = a := by
  by_cases holds : P <;> simp [holds, eq_comm]

theorem exists_of_isOk {x : Except ε α} (ok : x.isOk = true) : ∃ a, x = .ok a := by
  cases x with
  | error e => cases ok
  | ok a => exact ⟨a, rfl⟩

theorem exists_of_not_isOk {x : Except ε α} (failed : x.isOk = false) : ∃ e, x = .error e := by
  cases x with
  | error e => exact ⟨e, rfl⟩
  | ok a => cases failed

end Except
