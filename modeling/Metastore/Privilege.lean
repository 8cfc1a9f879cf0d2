import Metastore.Value

/-!
# Privilege

Connections, their encryption and their credentials are set up with privilege. `Action.privileged` runs an
action with privilege and gives the level back as it was, also when the action fails. `Instruction` is the
language of programs made of such actions, failures and recoveries from failures; running a program leaves
the level as it was.
-/

namespace Metastore

/-- An action on a state that may fail. What it changed before failing stays changed. -/
abbrev Action (σ ε α : Type) := ExceptT ε (StateM σ) α

/-- A state together with the level of privilege. -/
structure Privileged (σ : Type) where
  elevated : Bool
  state : σ
deriving DecidableEq, Repr

namespace Action

variable {σ ε α : Type}

/-- Runs an action with privilege. The level is as it was afterwards, whether the action fails or not. -/
def privileged (action : Action (Privileged σ) ε α) : Action (Privileged σ) ε α := fun s =>
  let (result, after) := action { s with elevated := true }
  (result, { after with elevated := s.elevated })

/-- The level at this point. -/
def level : Action (Privileged σ) ε Bool := fun s => (.ok s.elevated, s)

/-- Changes the state, but not the level. -/
def change (f : σ → σ) : Action (Privileged σ) ε Unit := fun s => (.ok (), { s with state := f s.state })

end Action

namespace Privilege

/-- A step of a program. -/
inductive Instruction where
  /-- Record the level. -/
  | observe
  /-- Run steps with privilege and record the value they give. -/
  | elevate (body : List Instruction)
  /-- Run steps and recover if they fail. -/
  | attempt (body : List Instruction)
  | fail (message : String)
  /-- End the surrounding steps with a value. -/
  | give (value : Value)
deriving Inhabited

/-- What a program records. -/
inductive Event where
  | level (elevated : Bool)
  | returned (value : Value)
  | caught (message : String) (elevated : Bool)
deriving DecidableEq, Repr

/-- The actions that programs consist of. -/
abbrev Program := Action (Privileged (List Event)) String

/-- Adds an event to the record. -/
def record (event : Event) : Program Unit := .change (· ++ [event])

/-- Recovers from the failure of an action and records it. -/
def recover (action : Program Value) : Program Unit := fun s =>
  match action s with
  | (.ok _, after) => (.ok (), after)
  | (.error message, after) => record (.caught message after.elevated) after

mutual

/-- Runs a step. A step that gives a value ends the steps it stands in. -/
def runStep : Instruction → Program (Option Value)
  | .observe => do
    record (.level (← Action.level))
    return none
  | .elevate body => do
    let value ← Action.privileged (runSteps body)
    record (.returned value)
    return none
  | .attempt body => do
    recover (runSteps body)
    return none
  | .fail message => throw message
  | .give value => return some value

/-- Runs steps in order. Steps that give no value give null. -/
def runSteps : List Instruction → Program Value
  | [] => return .null
  | step :: rest => do
    match ← runStep step with
    | some value => return value
    | none => runSteps rest

end

end Privilege
end Metastore
