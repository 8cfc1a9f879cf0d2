import Metastore.Proofs.Failure.Walk

/-!
# The search for a credential problem

The search looks at the failures on the way back, one after another, and at none of them twice:
`FailureGraph.lookedAt` lists them. It looks at a failure exactly if the walk comes there with nothing
shown before, for the first time (`FailureGraph.getElem?_lookedAt`); and it finds nothing exactly if the
walk ends or returns with nothing shown until then (`FailureGraph.finds_first_shown`).
-/

namespace Metastore.FailureGraph

variable {graph : FailureGraph} {visited : List Nat} {steps start index next found : Nat}
  {node : FailureNode}

/-! ### Where a failure leads, and what it shows -/

/-- Whether a failure leads back to another: to its cause, or to what was being dealt with if it has
none. -/
inductive LeadsBack (graph : FailureGraph) (index next : Nat) : Prop where
  | cause {node : FailureNode} (hnode : graph[index]? = some node) (h : node.cause = some next)
  | context {node : FailureNode} (hnode : graph[index]? = some node) (hcause : node.cause = none)
      (h : node.context = some next)

lemma back?_eq_some_iff : back? graph index = some next ↔ LeadsBack graph index next := by
  rw [back?, Option.bind_eq_some_iff]
  constructor
  · rintro ⟨node, hnode, hnext⟩
    rcases Option.or_eq_some_iff.mp hnext with hcause | ⟨hcause, hcontext⟩
    · exact .cause hnode hcause
    · exact .context hnode hcause hcontext
  · rintro (⟨hnode, hcause⟩ | ⟨hnode, hcause, hcontext⟩)
    · exact ⟨_, hnode, Option.or_eq_some_iff.mpr (.inl hcause)⟩
    · exact ⟨_, hnode, Option.or_eq_some_iff.mpr (.inr ⟨hcause, hcontext⟩)⟩

/-- Whether a failure in the graph is a credential problem. -/
def IsCredential (graph : FailureGraph) (index : Nat) : Prop :=
  ∃ node problem, graph[index]? = some node ∧ node.problem = .auth problem

lemma isAuth_iff : graph.isAuth index = true ↔ IsCredential graph index := by
  rw [isAuth, IsCredential]
  cases graph[index]? with
  | none => simp
  | some node => cases hproblem : node.problem <;> simp [Problem.isAuth, hproblem]

/-- Whether a failure shows a credential problem: it is one itself, or else it carries one. -/
inductive Shows (graph : FailureGraph) (index : Nat) : Nat → Prop where
  | itself (h : IsCredential graph index) : Shows graph index index
  | carried {node : FailureNode} {found : Nat} (hother : ¬ IsCredential graph index)
      (hnode : graph[index]? = some node) (hinfo : node.info = .failure found)
      (h : IsCredential graph found) : Shows graph index found

/-- The credential problem that a failure shows, if it is in the graph. -/
def shown? (graph : FailureGraph) (index : Nat) : Option Nat :=
  graph[index]?.bind (authAt? graph index)

lemma shown?_of_node (hnode : graph[index]? = some node) :
    shown? graph index = authAt? graph index node := by
  rw [shown?, hnode, Option.bind_some]

lemma isCredential_of_node (hnode : graph[index]? = some node) :
    IsCredential graph index ↔ node.problem.isAuth = true := by
  rw [← isAuth_iff, isAuth, hnode]

lemma shows_iff : Shows graph index found ↔ shown? graph index = some found := by
  constructor
  · intro h
    cases h with
    | itself h =>
      obtain ⟨node, -, hnode, -⟩ := id h
      rw [shown?_of_node hnode, authAt?, if_pos ((isCredential_of_node hnode).mp h)]
    | carried hother hnode hinfo h =>
      rw [isCredential_of_node hnode] at hother
      rw [shown?_of_node hnode, authAt?, if_neg hother, hinfo]
      dsimp only
      rw [if_pos (isAuth_iff.mpr h)]
  · intro h
    obtain ⟨node, hnode, hauth⟩ := Option.bind_eq_some_iff.mp h
    have hself := isCredential_of_node hnode
    rw [authAt?] at hauth
    split at hauth
    · next hproblem =>
      obtain rfl := Option.some.inj hauth
      exact .itself (hself.mpr hproblem)
    · next hproblem =>
      split at hauth
      · next other hinfo =>
        split at hauth
        · next hcarried =>
          obtain rfl := Option.some.inj hauth
          exact .carried (hproblem ∘ hself.mp) hnode hinfo (isAuth_iff.mp hcarried)
        · cases hauth
      · cases hauth

/-- Whether none of the failures that are fewer steps back shows a credential problem. -/
def NoneBefore (graph : FailureGraph) (steps start : Nat) : Prop :=
  ∀ fewer < steps, ∀ index, walk graph fewer start = some index → ∀ found, ¬ Shows graph index found

lemma metAfter_eq_some_iff : metAfter graph steps start = some found ↔
    ∃ index, walk graph steps start = some index ∧ Shows graph index found := by
  rw [metAfter, Option.bind_eq_some_iff]
  simp only [shows_iff, shown?]

lemma noneBefore_iff :
    NoneBefore graph steps start ↔ ∀ fewer < steps, metAfter graph fewer start = none := by
  simp only [Option.eq_none_iff_forall_ne_some, ne_eq, metAfter_eq_some_iff, NoneBefore]
  constructor
  · rintro h fewer hfewer found ⟨index, hwalk, hshows⟩
    exact h fewer hfewer index hwalk found hshows
  · intro h fewer hfewer index hwalk found hshows
    exact h fewer hfewer found ⟨index, hwalk, hshows⟩

lemma meetsFirst_iff : MeetsFirst graph start found ↔
    ∃ steps index, walk graph steps start = some index ∧ Shows graph index found ∧
      NoneBefore graph steps start := by
  simp only [MeetsFirst, metAfter_eq_some_iff, noneBefore_iff]
  constructor
  · rintro ⟨steps, ⟨index, hwalk, hshows⟩, hbefore⟩
    exact ⟨steps, index, hwalk, hshows, hbefore⟩
  · rintro ⟨steps, index, hwalk, hshows, hbefore⟩
    exact ⟨steps, ⟨index, hwalk, hshows⟩, hbefore⟩

/-! ### Where a walk comes to nothing new -/

/-- Whether the walk from a failure has ended after some steps, or returned to where it was before. -/
def ClosesAfter (graph : FailureGraph) (steps start : Nat) : Prop :=
  walk graph steps start = none ∨ ∃ fewer < steps, walk graph fewer start = walk graph steps start

lemma walk_succ_of_back (h : back? graph index = some next) (steps : Nat) :
    walk graph (steps + 1) index = walk graph steps next := by
  rw [walk, h, Option.bind_some]

/-- What comes after a walk has closed was there before. -/
lemma metAfter_of_closesAfter (hcloses : ClosesAfter graph steps start)
    (hbefore : ∀ fewer < steps, metAfter graph fewer start = none) (n : Nat) :
    metAfter graph n start = none := by
  induction n using Nat.strong_induction_on with
  | _ n ih =>
    by_cases hfewer : n < steps
    · exact hbefore n hfewer
    · obtain ⟨more, rfl⟩ := Nat.exists_eq_add_of_le (Nat.le_of_not_lt hfewer)
      cases hwalk : walk graph steps start with
      | none => rw [metAfter, walk_add, hwalk, Option.bind_none, Option.bind_none]
      | some index =>
        obtain hend | ⟨fewer, hlt, hreturn⟩ := hcloses
        · rw [hwalk] at hend
          cases hend
        · rw [hwalk] at hreturn
          rw [metAfter_add hwalk, ← metAfter_add hreturn]
          exact ih (fewer + more) (by omega)

/-! ### What is looked at -/

/-- The failures that the search looks at, in order, when some have been visited already: what
`findAuthFrom` does, with what it looks at in place of what it finds. -/
def lookedAt (graph : FailureGraph) (visited : List Nat) (index : Nat) : List Nat :=
  if _hnew : visited.contains index = false then
    match _found : graph[index]? with
    | none => []
    | some node =>
      index ::
        match authAt? graph index node with
        | some _ => []
        | none =>
          match node.next with
          | some next => lookedAt graph (index :: visited) next
          | none => []
  else []
termination_by unvisited graph visited
decreasing_by
  exact unvisited_cons_lt graph (List.getElem?_eq_some_iff.1 _found).1 _hnew

lemma lookedAt_of_visited (h : index ∈ visited) : lookedAt graph visited index = [] := by
  rw [lookedAt, dif_neg]
  simp [h]

lemma lookedAt_of_outside (h : graph[index]? = none) : lookedAt graph visited index = [] := by
  rw [lookedAt]
  split
  · split
    · rfl
    · next node hnode =>
      rw [h] at hnode
      cases hnode
  · rfl

/-- A failure that was not visited is looked at, and then the one that it leads back to, if it shows
nothing itself. -/
lemma lookedAt_eq (hnew : index ∉ visited) (hnode : graph[index]? = some node) :
    lookedAt graph visited index = index ::
      match authAt? graph index node with
      | some _ => []
      | none =>
        match node.next with
        | some next => lookedAt graph (index :: visited) next
        | none => [] := by
  rw [lookedAt, dif_pos (by simpa using hnew)]
  split
  · next hnone =>
    rw [hnone] at hnode
    cases hnode
  · next other hother =>
    obtain rfl : other = node := Option.some.inj (hother.symm.trans hnode)
    rfl

/-- What is found is what the failures that are looked at show first. -/
lemma findAuthFrom_eq_findSome? (graph : FailureGraph) (visited : List Nat) (index : Nat) :
    findAuthFrom graph visited index = (lookedAt graph visited index).findSome? (shown? graph) := by
  induction visited, index using findAuthFrom.induct graph with
  | case1 visited index hnew hnode =>
    rw [findAuthFrom_of_outside hnode, lookedAt_of_outside hnode, List.findSome?_nil]
  | case2 visited index hnew node hnode i hauth =>
    have hindex : index ∉ visited := by simpa using hnew
    rw [findAuthFrom_eq hindex hnode, lookedAt_eq hindex hnode, hauth, List.findSome?_cons,
      shown?_of_node hnode, hauth]
    rfl
  | case3 visited index hnew node hnode hauth next hnext ih =>
    have hindex : index ∉ visited := by simpa using hnew
    rw [findAuthFrom_eq hindex hnode, lookedAt_eq hindex hnode, hauth, hnext, List.findSome?_cons,
      shown?_of_node hnode, hauth]
    exact ih
  | case4 visited index hnew node hnode hauth hnext =>
    have hindex : index ∉ visited := by simpa using hnew
    rw [findAuthFrom_eq hindex hnode, lookedAt_eq hindex hnode, hauth, hnext, List.findSome?_cons,
      shown?_of_node hnode, hauth]
    rfl
  | case5 visited index hnew =>
    have hindex : index ∈ visited := by simpa using hnew
    rw [findAuthFrom_of_visited hindex, lookedAt_of_visited hindex, List.findSome?_nil]

/-- Whether the walk from a failure comes to another one after some steps, for the first time and with
nothing shown before. -/
structure ComesTo (graph : FailureGraph) (steps start index : Nat) : Prop where
  walk_eq : walk graph steps start = some index
  isInside : index < graph.length
  noneBefore : NoneBefore graph steps start
  isFirst : ∀ fewer < steps, walk graph fewer start ≠ some index

lemma metAfter_start : metAfter graph 0 start = shown? graph start := rfl

lemma noneBefore_succ (hback : back? graph start = some next) :
    NoneBefore graph (steps + 1) start ↔ shown? graph start = none ∧ NoneBefore graph steps next := by
  rw [noneBefore_iff, Nat.forall_lt_succ_left, metAfter_start, noneBefore_iff]
  simp only [metAfter_succ hback]

lemma comesTo_zero : ComesTo graph 0 start index ↔ start = index ∧ index < graph.length := by
  constructor
  · intro h
    exact ⟨Option.some.inj h.walk_eq, h.isInside⟩
  · rintro ⟨rfl, hinside⟩
    exact ⟨rfl, hinside, by simp [NoneBefore], by simp⟩

lemma comesTo_succ (hback : back? graph start = some next) :
    ComesTo graph (steps + 1) start index ↔
      shown? graph start = none ∧ start ≠ index ∧ ComesTo graph steps next index := by
  constructor
  · intro h
    obtain ⟨hshown, hbefore⟩ := (noneBefore_succ hback).mp h.noneBefore
    obtain ⟨hstart, hfirst⟩ := Nat.forall_lt_succ_left.mp h.isFirst
    refine ⟨hshown, fun heq => hstart (by rw [heq, walk]), ?_, h.isInside, hbefore, ?_⟩
    · rw [← walk_succ_of_back hback, h.walk_eq]
    · intro fewer hfewer
      rw [← walk_succ_of_back hback]
      exact hfirst fewer hfewer
  · rintro ⟨hshown, hne, h⟩
    refine ⟨?_, h.isInside, (noneBefore_succ hback).mpr ⟨hshown, h.noneBefore⟩, ?_⟩
    · rw [walk_succ_of_back hback, h.walk_eq]
    · refine Nat.forall_lt_succ_left.mpr ⟨fun heq => hne (Option.some.inj heq), ?_⟩
      intro fewer hfewer
      rw [walk_succ_of_back hback]
      exact h.isFirst fewer hfewer

/-- A walk that comes to a failure for the first time has not returned to its start on the way. -/
lemma ComesTo.ne_start (h : ComesTo graph (steps + 1) start index)
    (hback : back? graph start = some next) {fewer : Nat} (hfewer : fewer ≤ steps) :
    walk graph fewer next ≠ some start := by
  intro hreturn
  rw [← walk_succ_of_back hback] at hreturn
  have hagain : walk graph (steps - fewer) start = some index := by
    rw [← h.walk_eq, show steps + 1 = fewer + 1 + (steps - fewer) by omega, walk_add, hreturn,
      Option.bind_some]
  exact h.isFirst (steps - fewer) (by omega) hagain

/-- Whether a walk passes none of some failures. -/
def Avoids (graph : FailureGraph) (visited : List Nat) (steps start : Nat) : Prop :=
  ∀ fewer ≤ steps, ∀ i ∈ visited, walk graph fewer start ≠ some i

lemma avoids_zero : Avoids graph visited 0 start ↔ start ∉ visited := by
  simp only [Avoids, Nat.le_zero, forall_eq, walk, ne_eq, Option.some.injEq]
  constructor
  · intro h hmem
    exact h start hmem rfl
  · rintro h i hi rfl
    exact h hi

lemma avoids_succ (hback : back? graph start = some next) :
    Avoids graph visited (steps + 1) start ↔ start ∉ visited ∧ Avoids graph visited steps next := by
  constructor
  · intro h
    refine ⟨avoids_zero.mp fun fewer hfewer => h fewer (by omega), ?_⟩
    intro fewer hfewer
    rw [← walk_succ_of_back hback]
    exact h (fewer + 1) (by omega)
  · rintro ⟨hstart, h⟩ fewer hfewer
    cases fewer with
    | zero => exact avoids_zero.mpr hstart 0 le_rfl
    | succ fewer =>
      rw [walk_succ_of_back hback]
      exact h fewer (by omega)

lemma not_comesTo_of_last (h : back? graph start = none) : ¬ ComesTo graph (steps + 1) start index := by
  intro hcomes
  have hwalk := hcomes.walk_eq
  rw [walk, h] at hwalk
  cases hwalk

lemma not_comesTo_of_shown (h : shown? graph start = some found) :
    ¬ ComesTo graph (steps + 1) start index := by
  intro hcomes
  have hnone := noneBefore_iff.mp hcomes.noneBefore 0 (Nat.succ_pos steps)
  rw [metAfter_start, h] at hnone
  cases hnone

lemma not_comesTo_of_outside (h : graph[start]? = none) : ¬ ComesTo graph steps start index := by
  cases steps with
  | zero =>
    intro hcomes
    obtain ⟨rfl, hinside⟩ := comesTo_zero.mp hcomes
    exact absurd hinside (Nat.not_lt_of_le (List.getElem?_eq_none_iff.mp h))
  | succ steps =>
    apply not_comesTo_of_last
    rw [back?, h, Option.bind_none]

/-- The failure that the search starts from is looked at first, unless it was visited earlier. -/
lemma looks_at_start (hnode : graph[start]? = some node) (hnew : start ∉ visited) (rest : List Nat) :
    (start :: rest)[0]? = some index ↔ ComesTo graph 0 start index ∧ Avoids graph visited 0 start := by
  have hinside : start < graph.length := (List.getElem?_eq_some_iff.mp hnode).1
  rw [List.getElem?_cons_zero, Option.some.injEq, comesTo_zero, avoids_zero]
  constructor
  · rintro rfl
    exact ⟨⟨rfl, hinside⟩, hnew⟩
  · rintro ⟨⟨rfl, -⟩, -⟩
    rfl

/-- A failure is looked at exactly if the walk comes to it for the first time, with nothing shown before
and without passing what was visited earlier. -/
lemma getElem?_lookedAt_from (graph : FailureGraph) (visited : List Nat) (start steps index : Nat) :
    (lookedAt graph visited start)[steps]? = some index ↔
      ComesTo graph steps start index ∧ Avoids graph visited steps start := by
  induction visited, start using findAuthFrom.induct graph generalizing steps with
  | case1 visited start hnew hnode =>
    rw [lookedAt_of_outside hnode]
    simp [not_comesTo_of_outside hnode]
  | case2 visited start hnew node hnode i hauth =>
    have hstart : start ∉ visited := by simpa using hnew
    have hshown : shown? graph start = some i := by rw [shown?_of_node hnode, hauth]
    rw [lookedAt_eq hstart hnode, hauth]
    cases steps with
    | zero => exact looks_at_start hnode hstart _
    | succ steps => simp [not_comesTo_of_shown hshown]
  | case3 visited start hnew node hnode hauth next hnext ih =>
    have hstart : start ∉ visited := by simpa using hnew
    have hshown : shown? graph start = none := by rw [shown?_of_node hnode, hauth]
    have hback : back? graph start = some next := by simp [back?, hnode, hnext]
    rw [lookedAt_eq hstart hnode, hauth, hnext]
    dsimp only
    cases steps with
    | zero => exact looks_at_start hnode hstart _
    | succ steps =>
      rw [List.getElem?_cons_succ, ih, comesTo_succ hback, avoids_succ hback]
      constructor
      · rintro ⟨hcomes, havoids⟩
        refine ⟨⟨hshown, ?_, hcomes⟩, hstart, ?_⟩
        · rintro rfl
          exact havoids steps le_rfl start List.mem_cons_self hcomes.walk_eq
        · intro fewer hfewer i hi
          exact havoids fewer hfewer i (List.mem_cons_of_mem start hi)
      · rintro ⟨hcomes, -, havoids⟩
        refine ⟨hcomes.2.2, fun fewer hfewer i hi => ?_⟩
        rcases List.mem_cons.mp hi with rfl | hi
        · -- what counts as visited now is passed by no walk that goes somewhere new
          exact ((comesTo_succ hback).mpr hcomes).ne_start hback hfewer
        · exact havoids fewer hfewer i hi
  | case4 visited start hnew node hnode hauth hnext =>
    have hstart : start ∉ visited := by simpa using hnew
    have hback : back? graph start = none := by simp [back?, hnode, hnext]
    rw [lookedAt_eq hstart hnode, hauth, hnext]
    cases steps with
    | zero => exact looks_at_start hnode hstart _
    | succ steps => simp [not_comesTo_of_last hback]
  | case5 visited start hnew =>
    have hstart : start ∈ visited := by simpa using hnew
    have hvisited : ¬ Avoids graph visited steps start :=
      fun h => h 0 (Nat.zero_le steps) start hstart rfl
    rw [lookedAt_of_visited hstart]
    simp [hvisited]

/-- A failure is looked at exactly if the walk comes to it for the first time, with nothing shown before. -/
lemma getElem?_lookedAt (graph : FailureGraph) (start steps index : Nat) :
    (lookedAt graph [] start)[steps]? = some index ↔ ComesTo graph steps start index := by
  rw [getElem?_lookedAt_from, and_iff_left]
  simp [Avoids]

/-- No failure is looked at twice. -/
lemma nodup_lookedAt (graph : FailureGraph) (start : Nat) : (lookedAt graph [] start).Nodup := by
  rw [List.nodup_iff_getElem?_ne_getElem?]
  intro fewer steps hfewer hlength heq
  obtain ⟨index, hindex⟩ : ∃ index, (lookedAt graph [] start)[steps]? = some index :=
    ⟨_, List.getElem?_eq_getElem hlength⟩
  have hfirst := ((getElem?_lookedAt graph start steps index).mp hindex).isFirst fewer hfewer
  rw [hindex, getElem?_lookedAt] at heq
  exact hfirst heq.walk_eq

/-- At most all failures are looked at. -/
lemma length_lookedAt_le (graph : FailureGraph) (start : Nat) :
    (lookedAt graph [] start).length ≤ graph.length := by
  have hinside : lookedAt graph [] start ⊆ List.range graph.length := by
    intro index hmem
    obtain ⟨steps, hindex⟩ := List.mem_iff_getElem?.mp hmem
    exact List.mem_range.mpr ((getElem?_lookedAt graph start steps index).mp hindex).isInside
  have hlength := ((nodup_lookedAt graph start).subperm hinside).length_le
  rwa [List.length_range] at hlength

/-! ### What is found -/

lemma metAfter_of_not_meetsFirst (h : ∀ found, ¬ MeetsFirst graph start found) (steps : Nat) :
    metAfter graph steps start = none := by
  induction steps using Nat.strong_induction_on with
  | _ steps ih =>
    cases hmet : metAfter graph steps start with
    | none => rfl
    | some found => exact absurd ⟨steps, hmet, ih⟩ (h found)

/-- The walk closes where there is nothing more to look at, if nothing was shown. -/
lemma exists_closesAfter (h : ∀ steps, NoneBefore graph steps start) :
    ∃ steps, ClosesAfter graph steps start := by
  cases hwalk : walk graph (lookedAt graph [] start).length start with
  | none => exact ⟨_, .inl hwalk⟩
  | some index =>
    by_cases hinside : index < graph.length
    · refine ⟨(lookedAt graph [] start).length, .inr ?_⟩
      rw [hwalk]
      by_contra hnew
      have hcomes : ComesTo graph (lookedAt graph [] start).length start index :=
        ⟨hwalk, hinside, h _, fun fewer hfewer heq => hnew ⟨fewer, hfewer, heq⟩⟩
      have hlooked := (getElem?_lookedAt graph start _ index).mpr hcomes
      rw [List.getElem?_eq_none le_rfl] at hlooked
      cases hlooked
    · have hback : back? graph index = none := by
        rw [back?, List.getElem?_eq_none (Nat.le_of_not_lt hinside), Option.bind_none]
      refine ⟨(lookedAt graph [] start).length + 1, .inl ?_⟩
      rw [walk_add, hwalk, Option.bind_some, walk, hback, Option.bind_none]

/-- Nothing is found exactly if the way back ends or returns with nothing shown before. -/
lemma findAuth_eq_none_iff : findAuth graph (some start) = none ↔
    ∃ steps, ClosesAfter graph steps start ∧ NoneBefore graph steps start := by
  simp only [Option.eq_none_iff_forall_ne_some, ne_eq, findAuth_eq_some_iff]
  constructor
  · intro h
    have hnone (steps : Nat) : NoneBefore graph steps start :=
      noneBefore_iff.mpr fun fewer _ => metAfter_of_not_meetsFirst h fewer
    obtain ⟨steps, hcloses⟩ := exists_closesAfter hnone
    exact ⟨steps, hcloses, hnone steps⟩
  · rintro ⟨steps, hcloses, hbefore⟩ found ⟨n, hmet, -⟩
    rw [metAfter_of_closesAfter hcloses (noneBefore_iff.mp hbefore)] at hmet
    cases hmet

/-- What is promised of the search for a credential problem that starts from a failure. -/
structure Searched (graph : FailureGraph) (start : Nat) : Prop where
  /-- The way back goes by causes, and without a cause by what was being dealt with. -/
  back_iff (index next : Nat) : back? graph index = some next ↔ LeadsBack graph index next
  /-- No failure is looked at twice. -/
  once : (lookedAt graph [] start).Nodup
  /-- The search has come to its end when all failures have been looked at, if not before. -/
  length_le : (lookedAt graph [] start).length ≤ graph.length
  /-- A failure is looked at exactly if the walk comes to it for the first time, with nothing shown
  before. -/
  looked_iff (steps index : Nat) :
    (lookedAt graph [] start)[steps]? = some index ↔ ComesTo graph steps start index
  /-- What is found is what the failures that are looked at show first. -/
  found_eq : findAuth graph (some start) = (lookedAt graph [] start).findSome? (shown? graph)
  /-- What is found is what is shown first on the way back. -/
  found_iff (found : Nat) : findAuth graph (some start) = some found ↔
    ∃ steps index, walk graph steps start = some index ∧ Shows graph index found ∧
      NoneBefore graph steps start
  /-- Nothing is found exactly if the way back ends or returns with nothing shown before. -/
  nothing_iff : findAuth graph (some start) = none ↔
    ∃ steps, ClosesAfter graph steps start ∧ NoneBefore graph steps start

/-- The search for a credential problem looks at no failure twice, and finds what is shown first on the
way back, wherever the links between the failures lead. -/
theorem finds_first_shown (graph : FailureGraph) (start : Nat) : Searched graph start where
  back_iff _ _ := back?_eq_some_iff
  once := nodup_lookedAt graph start
  length_le := length_lookedAt_le graph start
  looked_iff := getElem?_lookedAt graph start
  found_eq := findAuthFrom_eq_findSome? graph [] start
  found_iff _ := findAuth_eq_some_iff.trans meetsFirst_iff
  nothing_iff := findAuth_eq_none_iff

/-- From the first failure one comes into a circle of the other two. -/
example :
    lookedAt [{ problem := .runtime, cause := some 1 }, { problem := .system, context := some 2 },
      { problem := .badJson, cause := some 1, context := some 0 }] [] 0 = [0, 1, 2] := by
  cbv

end Metastore.FailureGraph
