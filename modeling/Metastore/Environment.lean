/-!
# Environment variables

The variables of a process, in the order in which they were first set. A name occurs once.
-/

namespace Metastore

/-- Environment variables: names with their values. -/
abbrev Environment := List (String × String)

namespace Environment

/-- The value of a variable. -/
def value? (env : Environment) (name : String) : Option String := env.lookup name

/-- Sets a variable, which keeps its place if it was set already. -/
def set : Environment → String → String → Environment
  | [], name, value => [(name, value)]
  | (n, v) :: rest, name, value =>
    if n = name then (n, value) :: rest else (n, v) :: set rest name value

/-- The variables set by a list of assignments. -/
def ofAssignments (pairs : List (String × String)) : Environment :=
  pairs.foldl (fun env p => set env p.1 p.2) []

end Environment
end Metastore
