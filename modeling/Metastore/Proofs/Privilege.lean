import Metastore.Proofs.Action

/-!
# Levels of privilege

A level that is raised for an action is given back when the action is left, and whatever is made of
such actions gives the level back as well (`Action.Keeps`). So the level is a matter of where a step
stands: a step of a program runs with privilege exactly if it stands in an elevation, or the program
does (`Privilege.Reaches.elevated_iff`).
-/

namespace Metastore

/-! ### Actions that give the level back -/

namespace Action

variable {σ ε α β : Type} {R : σ → σ → Prop}

/-- Whether an action gives the level back as it was and leads from a state to a related one, whether it
succeeds or fails. -/
def Keeps (R : σ → σ → Prop) (action : Action (Privileged σ) ε α) : Prop :=
  ∀ s, (action s).2.elevated = s.elevated ∧ R s.state (action s).2.state

lemma keeps_change {f : σ → σ} (h : ∀ s, R s (f s)) :
    Keeps R (change f : Action (Privileged σ) ε Unit) :=
  fun s => ⟨rfl, h s.state⟩

/-- An elevation gives the level back by itself. -/
lemma Keeps.privileged {action : Action (Privileged σ) ε α} (h : Keeps R action) :
    Keeps R action.privileged :=
  fun s => ⟨rfl, (h { s with elevated := true }).2⟩

section Preorder

variable [IsPreorder σ R]

lemma keeps_pure (a : α) : Keeps R (pure a : Action (Privileged σ) ε α) :=
  fun s => ⟨rfl, refl_of R s.state⟩

lemma keeps_throw (e : ε) : Keeps R (throw e : Action (Privileged σ) ε α) :=
  fun s => ⟨rfl, refl_of R s.state⟩

lemma keeps_level : Keeps R (level : Action (Privileged σ) ε Bool) :=
  fun s => ⟨rfl, refl_of R s.state⟩

/-- What follows an action leads on from the state that the action ends in. -/
lemma state_bind (action : Action (Privileged σ) ε α) {next : α → Action (Privileged σ) ε β}
    (hnext : ∀ a, Keeps R (next a)) (s : Privileged σ) :
    R (action s).2.state ((action >>= next) s).2.state := by
  rw [bind_apply]
  rcases action s with ⟨e | a, between⟩
  · exact refl_of R between.state
  · exact (hnext a between).2

lemma Keeps.bind {action : Action (Privileged σ) ε α} {next : α → Action (Privileged σ) ε β}
    (h : Keeps R action) (hnext : ∀ a, Keeps R (next a)) : Keeps R (action >>= next) := by
  intro s
  obtain ⟨hlevel, hstate⟩ := h s
  refine ⟨?_, trans_of R hstate (state_bind action hnext s)⟩
  rw [bind_apply]
  generalize action s = outcome at hlevel
  rcases outcome with ⟨e | a, between⟩
  · exact hlevel
  · exact (hnext a between).1.trans hlevel

end Preorder

end Action

/-! ### Programs -/

open Metastore.Action

namespace Privilege

lemma keeps_record (event : Event) : Keeps (· <+: ·) (record event) :=
  keeps_change fun log => List.prefix_append log [event]

/-- A recovery only adds to the record of what it recovers from. -/
lemma prefix_recover (action : Program Value) (s : Privileged (List Event)) :
    (action s).2.state <+: (recover action s).2.state := by
  rw [recover]
  rcases action s with ⟨message | value, after⟩
  · exact (keeps_record (.caught message after.elevated) after).2
  · exact List.prefix_rfl

lemma keeps_recover {action : Program Value} (h : Keeps (· <+: ·) action) :
    Keeps (· <+: ·) (recover action) := by
  intro s
  obtain ⟨hlevel, hstate⟩ := h s
  refine ⟨?_, hstate.trans (prefix_recover action s)⟩
  rw [recover]
  generalize action s = outcome at hlevel
  rcases outcome with ⟨message | value, after⟩
  · exact (keeps_record (.caught message after.elevated) after).1.trans hlevel
  · exact hlevel

mutual

/-- A step gives the level back and only adds to the record, however it ends. -/
lemma keeps_runStep (step : Instruction) : Keeps (· <+: ·) (runStep step) := by
  match step with
  | .observe =>
    rw [runStep]
    exact keeps_level.bind fun elevated => (keeps_record _).bind fun _ => keeps_pure none
  | .elevate body =>
    rw [runStep]
    exact (keeps_runSteps body).privileged.bind fun value =>
      (keeps_record _).bind fun _ => keeps_pure none
  | .attempt body =>
    rw [runStep]
    exact (keeps_recover (keeps_runSteps body)).bind fun _ => keeps_pure none
  | .fail message =>
    rw [runStep]
    exact keeps_throw message
  | .give value =>
    rw [runStep]
    exact keeps_pure (some value)

lemma keeps_runSteps (steps : List Instruction) : Keeps (· <+: ·) (runSteps steps) := by
  match steps with
  | [] =>
    rw [runSteps]
    exact keeps_pure Value.null
  | step :: rest =>
    rw [runSteps]
    refine (keeps_runStep step).bind fun given => ?_
    cases given with
    | none => exact keeps_runSteps rest
    | some value => exact keeps_pure value

end

/-- Whether running steps comes to a step, and in which state; the step stands in as many elevations as
its depth says. -/
inductive Reaches : List Instruction → Privileged (List Event) → (depth : Nat) → Instruction →
    Privileged (List Event) → Prop where
  | first (step : Instruction) (rest : List Instruction) (s : Privileged (List Event)) :
      Reaches (step :: rest) s 0 step s
  | later {step found : Instruction} {rest : List Instruction} {s between now : Privileged (List Event)}
      {depth : Nat} (hstep : runStep step s = (.ok none, between))
      (h : Reaches rest between depth found now) : Reaches (step :: rest) s depth found now
  | elevated {body rest : List Instruction} {s now : Privileged (List Event)} {depth : Nat}
      {found : Instruction} (h : Reaches body { s with elevated := true } depth found now) :
      Reaches (.elevate body :: rest) s (depth + 1) found now
  | attempted {body rest : List Instruction} {s now : Privileged (List Event)} {depth : Nat}
      {found : Instruction} (h : Reaches body s depth found now) :
      Reaches (.attempt body :: rest) s depth found now

variable {steps : List Instruction} {s now : Privileged (List Event)} {depth : Nat} {step : Instruction}

/-- A step runs with privilege exactly if it stands in an elevation, or the level was raised before. -/
lemma Reaches.elevated_iff (h : Reaches steps s depth step now) :
    now.elevated = true ↔ s.elevated = true ∨ 0 < depth := by
  induction h with
  | first step rest s => simp
  | @later step found rest s between now depth hstep h ih =>
    have hlevel := (keeps_runStep step s).1
    rw [hstep] at hlevel
    rw [ih, hlevel]
  | elevated h ih => simp [ih]
  | attempted h ih => exact ih

/-- What a step has recorded stays in the record. -/
lemma prefix_runSteps (step : Instruction) (rest : List Instruction) (s : Privileged (List Event)) :
    (runStep step s).2.state <+: (runSteps (step :: rest) s).2.state := by
  rw [runSteps]
  refine state_bind (R := (· <+: ·)) (runStep step) (fun given => ?_) s
  cases given with
  | none => exact keeps_runSteps rest
  | some value => exact keeps_pure value

lemma prefix_elevate (body : List Instruction) (s : Privileged (List Event)) :
    (runSteps body { s with elevated := true }).2.state <+: (runStep (.elevate body) s).2.state := by
  rw [runStep]
  exact state_bind (R := (· <+: ·)) (privileged (runSteps body))
    (fun value => (keeps_record _).bind fun _ => keeps_pure none) s

lemma prefix_attempt (body : List Instruction) (s : Privileged (List Event)) :
    (runSteps body s).2.state <+: (runStep (.attempt body) s).2.state := by
  rw [runStep]
  exact (prefix_recover (runSteps body) s).trans
    (state_bind (R := (· <+: ·)) (recover (runSteps body)) (fun _ => keeps_pure none) s)

/-- What a step records where the run comes to it is in the record. -/
lemma Reaches.prefix_runSteps (h : Reaches steps s depth step now) :
    (runStep step now).2.state <+: (runSteps steps s).2.state := by
  induction h with
  | first step rest s => exact Privilege.prefix_runSteps step rest s
  | @later step found rest s between now depth hstep h ih =>
    rw [runSteps, bind_of_ok hstep]
    exact ih
  | @elevated body rest s now depth found h ih =>
    exact ih.trans ((prefix_elevate body s).trans (Privilege.prefix_runSteps (.elevate body) rest s))
  | @attempted body rest s now depth found h ih =>
    exact ih.trans ((prefix_attempt body s).trans (Privilege.prefix_runSteps (.attempt body) rest s))

/-- A recovery runs at the level of the steps that it stands in. -/
lemma runStep_attempt_of_error {body : List Instruction} {message : String}
    {after : Privileged (List Event)} (h : runSteps body s = (.error message, after)) :
    (runStep (.attempt body) s).2.state = after.state ++ [.caught message s.elevated] := by
  have hlevel := (keeps_runSteps body s).1
  rw [h] at hlevel
  have hrecover : recover (runSteps body) s =
      (.ok (), { after with state := after.state ++ [.caught message after.elevated] }) := by
    rw [recover, h]
    rfl
  rw [runStep, bind_of_ok hrecover, ← hlevel]
  rfl

/-- What is promised of the levels that a program runs at. -/
structure ExactlyScoped (program : List Instruction) (begin : Privileged (List Event)) : Prop where
  /-- A step runs with privilege exactly if it stands in an elevation, or the level was raised before. -/
  elevated_iff {depth : Nat} {step : Instruction} {now : Privileged (List Event)} :
    Reaches program begin depth step now → (now.elevated = true ↔ begin.elevated = true ∨ 0 < depth)
  /-- A step that observes the level records the one it runs at. -/
  observed {depth : Nat} {now : Privileged (List Event)} : Reaches program begin depth .observe now →
    now.state ++ [.level now.elevated] <+: (runSteps program begin).2.state
  /-- A step that recovers from a failure of the steps in it does so at the level it runs at. -/
  caught {depth : Nat} {body : List Instruction} {now after : Privileged (List Event)}
    {message : String} : Reaches program begin depth (.attempt body) now →
    runSteps body now = (.error message, after) →
    after.state ++ [.caught message now.elevated] <+: (runSteps program begin).2.state
  /-- The level is given back, whether the program succeeds or fails. -/
  elevated_eq : (runSteps program begin).2.elevated = begin.elevated

lemma exactlyScoped (program : List Instruction) (begin : Privileged (List Event)) :
    ExactlyScoped program begin where
  elevated_iff h := h.elevated_iff
  observed h := h.prefix_runSteps
  caught h hfail := by
    rw [← runStep_attempt_of_error hfail]
    exact h.prefix_runSteps
  elevated_eq := (keeps_runSteps program begin).1

example : (runSteps [.elevate [.attempt [.elevate [.fail "no"]], .observe], .observe] ⟨false, []⟩).2 =
    ⟨false, [.caught "no" true, .level true, .returned .null, .level false]⟩ := rfl

end Privilege
end Metastore
