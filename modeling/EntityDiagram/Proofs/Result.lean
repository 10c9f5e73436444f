/-!
# Results that are no errors

When the steps of a computation that may fail have all succeeded, and with what.
-/

namespace EntityDiagram

variable {ε α β : Type}

theorem map_eq_ok_iff {f : α → β} {result : Except ε α} {b : β} :
    result.map f = .ok b ↔ ∃ a, result = .ok a ∧ f a = b := by
  cases result <;> simp [Except.map]

theorem bind_eq_ok_iff {f : α → Except ε β} {result : Except ε α} {b : β} :
    (result >>= f) = .ok b ↔ ∃ a, result = .ok a ∧ f a = .ok b := by
  cases result <;> simp [bind, Except.bind]

theorem mapError_eq_ok_iff {ε' : Type} {f : ε → ε'} {result : Except ε α} {a : α} :
    result.mapError f = .ok a ↔ result = .ok a := by
  cases result with
  | error fault =>
      show (.error (f fault) : Except ε' α) = .ok a ↔ (.error fault : Except ε α) = .ok a
      simp only [reduceCtorEq]
  | ok value =>
      show (.ok value : Except ε' α) = .ok a ↔ (.ok value : Except ε α) = .ok a
      rw [Except.ok.injEq, Except.ok.injEq]

@[simp] theorem map_ok (f : α → β) (a : α) : (.ok a : Except ε α).map f = .ok (f a) := rfl

@[simp] theorem bind_ok (f : α → Except ε β) (a : α) : ((.ok a : Except ε α) >>= f) = f a := rfl

end EntityDiagram
