import Mathlib
import Metastore.Failure

/-!
# The way back from a failure

A failure leads back to its cause, or else to what was being dealt with when it came up, and this
failure to another one. `FailureGraph.walk` follows the links wherever they lead, in a circle as
well. The search for a credential problem stops where it would visit a node again, and finds the
problem that the walk meets first, whenever the walk meets one at all (`findAuth_eq_some_iff`).
-/

namespace Metastore.FailureGraph

variable {graph : FailureGraph} {visited : List Nat} {start index next found other : Nat}

/-- The failure that a failure in the graph leads back to. -/
def back? (graph : FailureGraph) (index : Nat) : Option Nat := graph[index]?.bind (·.next)

/-- The failure at which one arrives after some steps back. -/
def walk (graph : FailureGraph) : (steps start : Nat) → Option Nat
  | 0, start => some start
  | steps + 1, start => (back? graph start).bind (walk graph steps)

/-- The credential problem that is met after some steps back: the failure there, or the one it
carries. -/
def metAfter (graph : FailureGraph) (steps start : Nat) : Option Nat :=
  (walk graph steps start).bind fun index => graph[index]?.bind (authAt? graph index)

/-- Whether a credential problem is the first one that is met on the way back from a failure. -/
def MeetsFirst (graph : FailureGraph) (start found : Nat) : Prop :=
  ∃ steps, metAfter graph steps start = some found ∧
    ∀ fewer < steps, metAfter graph fewer start = none

lemma MeetsFirst.unique (h : MeetsFirst graph start found) (h' : MeetsFirst graph start other) :
    found = other := by
  obtain ⟨steps, hmet, hbefore⟩ := h
  obtain ⟨steps', hmet', hbefore'⟩ := h'
  rcases lt_trichotomy steps steps' with hlt | rfl | hlt
  · rw [hbefore' steps hlt] at hmet
    cases hmet
  · rw [hmet] at hmet'
    exact Option.some.inj hmet'
  · rw [hbefore steps' hlt] at hmet'
    cases hmet'

/-! ### Steps of a walk -/

lemma walk_add (first more start : Nat) :
    walk graph (first + more) start = (walk graph first start).bind (walk graph more) := by
  induction first generalizing start with
  | zero => simp [walk]
  | succ first ih =>
    rw [Nat.succ_add, walk, walk]
    cases back? graph start with
    | none => rfl
    | some next => simp [ih]

lemma metAfter_zero {node : FailureNode} (hnode : graph[index]? = some node) :
    metAfter graph 0 index = authAt? graph index node := by
  simp [metAfter, walk, hnode]

lemma metAfter_succ (h : back? graph index = some next) (steps : Nat) :
    metAfter graph (steps + 1) index = metAfter graph steps next := by
  simp [metAfter, walk, h]

/-- Nothing is met after the last failure. -/
lemma metAfter_succ_of_last (h : back? graph index = none) (steps : Nat) :
    metAfter graph (steps + 1) index = none := by
  simp [metAfter, walk, h]

lemma metAfter_of_outside (h : graph[index]? = none) (steps : Nat) :
    metAfter graph steps index = none := by
  cases steps with
  | zero => simp [metAfter, walk, h]
  | succ steps =>
    apply metAfter_succ_of_last
    simp [back?, h]

/-- Where the walk comes to a failure, it goes on as from this failure. -/
lemma metAfter_add {first : Nat} (h : walk graph first start = some index) (more : Nat) :
    metAfter graph (first + more) start = metAfter graph more index := by
  rw [metAfter, walk_add, h, Option.bind_some, metAfter]

lemma MeetsFirst.step {node : FailureNode} (hnode : graph[index]? = some node)
    (hauth : authAt? graph index node = none) (hnext : node.next = some next)
    (h : MeetsFirst graph next found) : MeetsFirst graph index found := by
  have hback : back? graph index = some next := by simp [back?, hnode, hnext]
  obtain ⟨steps, hmet, hbefore⟩ := h
  refine ⟨steps + 1, ?_, ?_⟩
  · rw [metAfter_succ hback, hmet]
  · intro fewer hfewer
    cases fewer with
    | zero => rw [metAfter_zero hnode, hauth]
    | succ fewer =>
      rw [metAfter_succ hback]
      apply hbefore
      omega

/-! ### The search -/

lemma findAuthFrom_of_visited (h : index ∈ visited) : findAuthFrom graph visited index = none := by
  rw [findAuthFrom, dif_neg]
  simp [h]

lemma findAuthFrom_of_outside (h : graph[index]? = none) :
    findAuthFrom graph visited index = none := by
  rw [findAuthFrom]
  split
  · split
    · rfl
    · next node hnode =>
      rw [h] at hnode
      cases hnode
  · rfl

/-- A node that was not visited is looked at, and then the one that it leads back to. -/
lemma findAuthFrom_eq {node : FailureNode} (hnew : index ∉ visited)
    (hnode : graph[index]? = some node) :
    findAuthFrom graph visited index =
      (authAt? graph index node).or (node.next.bind (findAuthFrom graph (index :: visited))) := by
  rw [findAuthFrom, dif_pos (by simpa using hnew)]
  split
  · next hnone =>
    rw [hnone] at hnode
    cases hnode
  · next other hother =>
    obtain rfl : other = node := Option.some.inj (hother.symm.trans hnode)
    cases authAt? graph index other with
    | some found => rfl
    | none => cases other.next <;> rfl

/-- What the search finds is what the walk meets first. -/
lemma meetsFirst_of_findAuthFrom (h : findAuthFrom graph visited index = some found) :
    MeetsFirst graph index found := by
  induction visited, index using findAuthFrom.induct graph with
  | case1 visited index hnew hnode =>
    rw [findAuthFrom_of_outside hnode] at h
    cases h
  | case2 visited index hnew node hnode i hauth =>
    rw [findAuthFrom_eq (by simpa using hnew) hnode, hauth, Option.some_or] at h
    refine ⟨0, ?_, ?_⟩
    · rw [metAfter_zero hnode, hauth, h]
    · intro fewer hfewer
      exact absurd hfewer (Nat.not_lt_zero fewer)
  | case3 visited index hnew node hnode hauth next hnext ih =>
    rw [findAuthFrom_eq (by simpa using hnew) hnode, hauth, Option.none_or, hnext,
      Option.bind_some] at h
    exact (ih h).step hnode hauth hnext
  | case4 visited index hnew node hnode hauth hnext =>
    rw [findAuthFrom_eq (by simpa using hnew) hnode, hauth, hnext] at h
    cases h
  | case5 visited index hnew =>
    rw [findAuthFrom_of_visited (by simpa using hnew)] at h
    cases h

/-- Where the search finds nothing, the walk meets nothing before it comes to a node that was
visited earlier. -/
lemma metAfter_of_findAuthFrom_none (h : findAuthFrom graph visited index = none) (steps : Nat)
    (havoid : ∀ fewer ≤ steps, ∀ i ∈ visited, walk graph fewer index ≠ some i) :
    metAfter graph steps index = none := by
  induction visited, index using findAuthFrom.induct graph generalizing steps with
  | case1 visited index hnew hnode => exact metAfter_of_outside hnode steps
  | case2 visited index hnew node hnode i hauth =>
    rw [findAuthFrom_eq (by simpa using hnew) hnode, hauth] at h
    cases h
  | case3 visited index hnew node hnode hauth next hnext ih =>
    rw [findAuthFrom_eq (by simpa using hnew) hnode, hauth, Option.none_or, hnext,
      Option.bind_some] at h
    have hback : back? graph index = some next := by simp [back?, hnode, hnext]
    -- a walk that returns to this node has fewer steps left from there
    induction steps using Nat.strong_induction_on with
    | _ steps ihsteps =>
      cases steps with
      | zero => rw [metAfter_zero hnode, hauth]
      | succ steps =>
        rw [metAfter_succ hback]
        by_cases hreturn : ∃ first ≤ steps, walk graph first next = some index
        · obtain ⟨first, hfirst, hwalk⟩ := hreturn
          have hrest : metAfter graph (steps - first) index = none := by
            apply ihsteps (steps - first) (by omega)
            intro fewer hfewer
            exact havoid fewer (by omega)
          rw [← hrest, ← metAfter_add hwalk, Nat.add_sub_cancel' hfirst]
        · push Not at hreturn
          apply ih h steps
          intro fewer hfewer i hi
          rcases List.mem_cons.mp hi with rfl | hvisited
          · exact hreturn fewer hfewer
          · have hlater := havoid (fewer + 1) (by omega) i hvisited
            rwa [walk, hback, Option.bind_some] at hlater
  | case4 visited index hnew node hnode hauth hnext =>
    cases steps with
    | zero => rw [metAfter_zero hnode, hauth]
    | succ steps =>
      apply metAfter_succ_of_last
      simp [back?, hnode, hnext]
  | case5 visited index hnew =>
    have hmem : index ∈ visited := by simpa using hnew
    exact absurd rfl (havoid 0 (Nat.zero_le steps) index hmem)

/-- The credential problem that is found is the one that the walk meets first. -/
lemma findAuth_eq_some_iff :
    findAuth graph (some start) = some found ↔ MeetsFirst graph start found := by
  rw [findAuth, Option.bind_some]
  constructor
  · exact meetsFirst_of_findAuthFrom
  · intro h
    cases hfind : findAuthFrom graph [] start with
    | none =>
      obtain ⟨steps, hmet, -⟩ := h
      have hnone : metAfter graph steps start = none := by
        apply metAfter_of_findAuthFrom_none hfind
        simp
      rw [hmet] at hnone
      cases hnone
    | some other => rw [(meetsFirst_of_findAuthFrom hfind).unique h]

end Metastore.FailureGraph
