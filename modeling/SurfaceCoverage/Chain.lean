/-!
# Chains of steps that may fail

A chain of steps succeeds when every step does, and it fails with the failure of the first step that
fails.

**Results.**
* `bind_eq_ok_iff`, `bind_eq_error_iff`: how one step and what follows it end.
* `map_eq_ok_iff`: a step whose result is seen as another one.
* `mapError_eq_ok_iff`, `mapError_eq_error_iff`: a failure that is seen as another one.
-/

namespace SurfaceCoverage

section Chain

variable {ε δ α β : Type} {x : Except ε α}

@[simp]
theorem bind_ok (a : α) (f : α → Except ε β) :
    (Except.ok a >>= f) = f a :=
  rfl

theorem bind_eq_ok_iff {f : α → Except ε β} {b : β} :
    x >>= f = .ok b ↔ ∃ a, x = .ok a ∧ f a = .ok b := by
  cases x with
  | error e => simp [bind, Except.bind]
  | ok a => simp [bind, Except.bind]

theorem bind_eq_error_iff {f : α → Except ε β} {e : ε} :
    x >>= f = .error e ↔ x = .error e ∨ ∃ a, x = .ok a ∧ f a = .error e := by
  cases x with
  | error e' => simp [bind, Except.bind]
  | ok a => simp [bind, Except.bind]

theorem map_eq_ok_iff {f : α → β} {b : β} :
    x.map f = .ok b ↔ ∃ a, x = .ok a ∧ f a = b := by
  cases x <;> simp [Except.map]

theorem eq_ok_of_toOption {a : α} (h : x.toOption = some a) :
    x = .ok a := by
  cases x with
  | error e => cases h
  | ok b =>
    cases h
    rfl

@[simp]
theorem mapError_ok (f : ε → δ) (a : α) :
    (Except.ok a).mapError f = .ok a :=
  rfl

@[simp]
theorem mapError_error (f : ε → δ) (e : ε) :
    (Except.error e : Except ε α).mapError f = .error (f e) :=
  rfl

theorem mapError_eq_ok_iff {f : ε → δ} {a : α} :
    x.mapError f = .ok a ↔ x = .ok a := by
  cases x <;> simp

theorem mapError_eq_error_iff {f : ε → δ} {e : δ} :
    x.mapError f = .error e ↔ ∃ e', x = .error e' ∧ f e' = e := by
  cases x <;> simp

end Chain

end SurfaceCoverage
