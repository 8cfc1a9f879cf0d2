import Mathlib
import Metastore.Privilege

/-!
# Actions as functions

An action is a function of the state that it starts in. These equations open the steps that actions
are made of, and `Action.bind_eq_ok` takes a sequence that succeeds apart.
-/

namespace Metastore

lemma except_bind_eq_ok {ε α β : Type} {x : Except ε α} {f : α → Except ε β} {b : β} :
    (x >>= f) = .ok b ↔ ∃ a, x = .ok a ∧ f a = .ok b := by
  cases x with
  | error e =>
    constructor
    · intro h
      cases h
    · rintro ⟨a, ⟨⟩, -⟩
  | ok a =>
    constructor
    · intro h
      exact ⟨a, rfl, h⟩
    · rintro ⟨a', ⟨⟩, h⟩
      exact h

lemma except_map_eq_ok {ε α β : Type} {f : α → β} {x : Except ε α} {b : β} :
    x.map f = .ok b ↔ ∃ a, x = .ok a ∧ f a = b := by
  cases x <;> simp [Except.map]

lemma mapError_eq_ok {ε ε' α : Type} {f : ε → ε'} {x : Except ε α} {a : α} :
    x.mapError f = .ok a ↔ x = .ok a := by
  cases x <;> simp [Except.mapError]

namespace Action

variable {σ ε α β : Type}

@[simp] lemma lift_apply (x : Except ε α) (s : σ) : (liftM x : Action σ ε α) s = (x, s) := rfl

lemma bind_apply (x : Action σ ε α) (f : α → Action σ ε β) (s : σ) :
    (x >>= f) s = match x s with
      | (.ok a, after) => f a after
      | (.error e, after) => (.error e, after) := by
  show (x s >>= fun r => ExceptT.bindCont f r.1 r.2 : Id (Except ε β × σ)) = _
  rcases x s with ⟨e | a, after⟩ <;> rfl

/-- A step that succeeds is followed by the rest. -/
lemma bind_of_ok {x : Action σ ε α} {s after : σ} {a : α} (h : x s = (.ok a, after))
    (f : α → Action σ ε β) : (x >>= f) s = f a after := by
  rw [bind_apply, h]

/-- A step that fails ends the sequence. -/
lemma bind_of_error {x : Action σ ε α} {s after : σ} {e : ε} (h : x s = (.error e, after))
    (f : α → Action σ ε β) : (x >>= f) s = (.error e, after) := by
  rw [bind_apply, h]

/-- A sequence that succeeds has steps that succeed. -/
lemma bind_eq_ok {x : Action σ ε α} {f : α → Action σ ε β} {s after : σ} {b : β}
    (h : (x >>= f) s = (.ok b, after)) :
    ∃ a between, x s = (.ok a, between) ∧ f a between = (.ok b, after) := by
  rw [bind_apply] at h
  rcases hx : x s with ⟨e | a, between⟩
  · rw [hx] at h
    cases h
  · rw [hx] at h
    exact ⟨a, between, rfl, h⟩

lemma map_apply (f : α → β) (x : Action σ ε α) (s : σ) :
    (f <$> x) s = ((x s).1.map f, (x s).2) := by
  show (x >>= fun a => pure (f a)) s = _
  rw [bind_apply]
  rcases x s with ⟨e | a, after⟩ <;> rfl

end Action
end Metastore
