import Mathlib.Tactic.Common

/-! # Laws of results

When a result that was made of another is an error, and when it is not; and what is left of it where
the errors are forgotten. -/

namespace Except

variable {ε δ α β : Type} {r : Except ε α}

theorem bind_eq_ok_iff {f : α → Except ε β} {b : β} :
    r.bind f = .ok b ↔ ∃ a, r = .ok a ∧ f a = .ok b := by
  cases r <;> simp [Except.bind]

theorem bind_eq_error_iff {f : α → Except ε β} {x : ε} :
    r.bind f = .error x ↔ r = .error x ∨ ∃ a, r = .ok a ∧ f a = .error x := by
  cases r <;> simp [Except.bind]

theorem mapError_eq_ok_iff {f : ε → δ} {a : α} : r.mapError f = .ok a ↔ r = .ok a := by
  cases r <;> simp [Except.mapError]

theorem mapError_eq_error_iff {f : ε → δ} {y : δ} :
    r.mapError f = .error y ↔ ∃ x, r = .error x ∧ y = f x := by
  cases r <;> simp [Except.mapError, eq_comm]

theorem map_eq_ok_iff {f : α → β} {b : β} : r.map f = .ok b ↔ ∃ a, r = .ok a ∧ f a = b := by
  cases r <;> simp [Except.map]

theorem map_eq_error_iff {f : α → β} {x : ε} : r.map f = .error x ↔ r = .error x := by
  cases r <;> simp [Except.map]

theorem bind_assoc {γ : Type} (f : α → Except ε β) (g : β → Except ε γ) :
    (r.bind f).bind g = r.bind fun a => (f a).bind g := by
  cases r <;> rfl

theorem bind_map {γ : Type} (g : α → β) (f : β → Except ε γ) :
    (r.map g).bind f = r.bind fun a => f (g a) := by
  cases r <;> rfl

/-! ### Without the errors -/

theorem toOption_eq_some_iff {a : α} : r.toOption = some a ↔ r = .ok a := by
  cases r <;> simp [Except.toOption]

@[simp] theorem toOption_mapError (f : ε → δ) (r : Except ε α) :
    (r.mapError f).toOption = r.toOption := by
  cases r <;> rfl

@[simp] theorem toOption_map (f : α → β) (r : Except ε α) :
    (r.map f).toOption = r.toOption.map f := by
  cases r <;> rfl

@[simp] theorem toOption_bind (r : Except ε α) (f : α → Except ε β) :
    (r.bind f).toOption = r.toOption.bind fun a => (f a).toOption := by
  cases r <;> rfl

end Except
