/-!
# Failures

How an error is reported: the name of what went wrong, one line about it, and the lines of the
errors beneath, outermost first.
-/

namespace ApiPlatform

/-- Errors that can be reported. -/
class Failure (ε : Type) where
  /-- The name of what went wrong. -/
  label : ε → String
  /-- One line about it. -/
  message : ε → String
  /-- The lines of the errors beneath, outermost first. -/
  causes : ε → List String := fun _ => []

/-- The line of an error followed by those of the errors beneath it. -/
def Failure.trace {ε : Type} [Failure ε] (e : ε) : List String :=
  Failure.message e :: Failure.causes e

/-! ## Steps that may fail -/

namespace Failure

variable {ε ε' α β : Type} {x : Except ε α} {a : α}

theorem bind_eq_ok {f : α → Except ε β} {b : β} :
    x >>= f = .ok b ↔ ∃ a, x = .ok a ∧ f a = .ok b := by
  constructor
  · intro h
    cases x with
    | error e => cases h
    | ok a => exact ⟨a, rfl, h⟩
  · rintro ⟨a, rfl, h⟩
    exact h

theorem mapError_eq_ok {f : ε → ε'} : x.mapError f = .ok a ↔ x = .ok a := by
  cases x with
  | error e => constructor <;> intro h <;> cases h
  | ok b => constructor <;> intro h <;> cases h <;> rfl

/-- Two steps that come to the same, as far as it is looked at, fail with one error or both
succeed. -/
theorem cases_of_map_eq {y : Except ε α} {f : α → β} (h : x.map f = y.map f) :
    (∃ e, x = .error e ∧ y = .error e) ∨ ∃ a b, x = .ok a ∧ y = .ok b ∧ f a = f b := by
  cases x with
  | error e =>
      cases y with
      | error e' => exact .inl ⟨e, rfl, by cases h; rfl⟩
      | ok b => cases h
  | ok a =>
      cases y with
      | error e => cases h
      | ok b => exact .inr ⟨a, b, rfl, rfl, Except.ok.inj h⟩

end Failure

end ApiPlatform
