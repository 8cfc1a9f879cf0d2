import Mathlib
import Metastore.Services

/-!
# Runs

A run is a list of events: operations, of whatever kind is considered, and between them the passing
of time and changes of the sources of credentials, which reach all chains. What an operation does to the
services is a parameter. An invariant may speak of the events so far (`Services.run_invariant`).
-/

namespace Metastore

/-- What happens to services. -/
inductive Event (Operation : Type) where
  | perform (operation : Operation)
  | advance (seconds : Nat)
  | updateSource (index : Nat) (change : Source → Source)

namespace Services

variable {Operation α : Type} (perform : Operation → Services → Services)

/-- The services after an event. -/
def step (s : Services) : Event Operation → Services
  | .perform operation => perform operation s
  | .advance seconds => { s with now := s.now + seconds }
  | .updateSource index change => { s with chains := s.chains.map (·.updateSource index change) }

/-- The services after a run. -/
def run (s : Services) (events : List (Event Operation)) : Services := events.foldl (step perform) s

@[simp] lemma run_nil (s : Services) : s.run perform [] = s := rfl

@[simp] lemma run_cons (s : Services) (event : Event Operation) (events : List (Event Operation)) :
    s.run perform (event :: events) = (s.step perform event).run perform events := rfl

@[simp] lemma run_append (s : Services) (before after : List (Event Operation)) :
    s.run perform (before ++ after) = (s.run perform before).run perform after := by
  simp only [run, List.foldl_append]

/-- What holds of the services that a run starts from, and is kept by one more event, holds after
every run. -/
lemma run_invariant {start : Services} (Holds : List (Event Operation) → Services → Prop)
    (hstart : Holds [] start)
    (hstep : ∀ events event, Holds events (start.run perform events) →
      Holds (events ++ [event]) ((start.run perform events).step perform event))
    (events : List (Event Operation)) : Holds events (start.run perform events) := by
  induction events using List.reverseRecOn with
  | nil => exact hstart
  | append_singleton events event ih =>
    rw [run_append]
    exact hstep events event ih

end Services
end Metastore
