import Metastore.Problem

/-!
# Failures

A failure is a problem with what led to it: a service may attach the failure it met as additional
information, name it as the cause, or have been dealing with it when it failed itself. Since these links may
lead anywhere, also in circles, failures form a graph, and one of its nodes is the failure at hand.
-/

namespace Metastore

/-- What a failure carries as additional information. -/
inductive Info where
  /-- Nothing, or something that is no failure. -/
  | none
  /-- Another failure. -/
  | failure (index : Nat)
deriving DecidableEq, Repr

/-- One failure, with links to others by their position in the graph. -/
structure FailureNode where
  problem : Problem
  info : Info := .none
  cause : Option Nat := none
  context : Option Nat := none
deriving DecidableEq, Repr

/-- Failures linked with each other. -/
abbrev FailureGraph := List FailureNode

/-- A failure: a graph, and the node that is the failure at hand. -/
structure Failure where
  graph : FailureGraph
  start : Nat
deriving DecidableEq, Repr

namespace FailureNode

/-- The failure that a failure leads back to: its cause, or else what was being dealt with. -/
def next (node : FailureNode) : Option Nat := node.cause.or node.context

end FailureNode

namespace FailureGraph

/-- Whether the node at a position is a credential problem. -/
def isAuth (graph : FailureGraph) (index : Nat) : Bool :=
  match graph[index]? with
  | some node => node.problem.isAuth
  | none => false

/-- The credential problem that a node is, or that it carries. -/
def authAt? (graph : FailureGraph) (index : Nat) (node : FailureNode) : Option Nat :=
  if node.problem.isAuth then some index
  else match node.info with
    | .failure i => if isAuth graph i then some i else none
    | .none => none

/-- The nodes that have not been visited. -/
def unvisited (graph : FailureGraph) (visited : List Nat) : Nat :=
  (List.range graph.length).countP (!visited.contains ·)

/-- Visiting one more node leaves fewer. -/
theorem unvisited_cons_lt (graph : FailureGraph) {visited : List Nat} {index : Nat}
    (hbound : index < graph.length) (hnew : visited.contains index = false) :
    unvisited graph (index :: visited) < unvisited graph visited := by
  unfold unvisited
  have mono (xs : List Nat) :
      xs.countP (!(index :: visited).contains ·) ≤ xs.countP (!visited.contains ·) :=
    List.countP_mono_left fun x _ => by simp
  have strict (xs : List Nat) (hmem : index ∈ xs) :
      xs.countP (!(index :: visited).contains ·) < xs.countP (!visited.contains ·) := by
    induction xs with
    | nil => simp at hmem
    | cons x rest ih =>
      have hrest := mono rest
      rw [List.countP_cons, List.countP_cons]
      by_cases hx : x = index
      · subst hx
        rw [if_neg (by simp), if_pos (by simpa using hnew)]
        omega
      · have hlt := ih (by simpa [Ne.symm hx] using hmem)
        have heq : (index :: visited).contains x = visited.contains x := by simp [hx]
        rw [heq]
        omega
  exact strict _ (List.mem_range.2 hbound)

/-- The first credential problem met on the way back from a node: the node itself, the one it carries, or
one of those it leads back to. The way ends where it would visit a node again. -/
def findAuthFrom (graph : FailureGraph) (visited : List Nat) (index : Nat) : Option Nat :=
  if _hnew : visited.contains index = false then
    match _found : graph[index]? with
    | none => none
    | some node =>
      match authAt? graph index node with
      | some i => some i
      | none =>
        match node.next with
        | some next => findAuthFrom graph (index :: visited) next
        | none => none
  else none
termination_by unvisited graph visited
decreasing_by
  exact unvisited_cons_lt graph (List.getElem?_eq_some_iff.1 _found).1 _hnew

/-- The first credential problem met on the way back from a node, if there is a node. -/
def findAuth (graph : FailureGraph) (start : Option Nat) : Option Nat :=
  start.bind (findAuthFrom graph [])

end FailureGraph

namespace Failure

/-- A failure with nothing behind it. -/
def of (problem : Problem) : Failure := ⟨[{ problem }], 0⟩

/-- The problem of a failure. -/
def problem (f : Failure) : Problem :=
  match f.graph[f.start]? with
  | some node => node.problem
  | none => .runtime

/-- A failure that carries another one as its additional information. -/
def carrying (problem : Problem) (inner : Failure) : Failure :=
  ⟨inner.graph ++ [{ problem, info := .failure inner.start, context := some inner.start }],
    inner.graph.length⟩

/-- A failure with the credential problem behind it brought to the surface. A credential problem is left as
it is, and so is what is no ordinary failure. -/
def surface (f : Failure) : Failure :=
  if f.problem.isAuth || !f.problem.isOrdinary then f
  else match f.graph.findAuth (some f.start) with
    | some i => { f with start := i }
    | none => f

/-- Whether the context of what comes to the surface is hidden: because it was brought up from behind another
failure, or because it names its cause. -/
def hidesContext (f : Failure) : Bool :=
  f.surface.start != f.start || (f.graph[f.start]?.bind (·.cause)).isSome

end Failure
end Metastore
