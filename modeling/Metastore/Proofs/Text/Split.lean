import Mathlib
import Metastore.Text.Split
import Metastore.Text.Blank

/-!
# Cutting texts

What cutting and trimming leave: the pieces put together again are the text, and what is added behind a
text ends up in the last piece. Cutting at doubled separators gives the only pieces that are put together to
the text and have none inside or across their ends (`AreCut.splitDoubled_eq`).
-/

namespace Metastore.Text

variable {sep : Char} {cs front back : List Char}

/-! ### Cutting at the first separator -/

lemma bne_of_not_mem (h : sep ∉ cs) : ∀ c ∈ cs, (c != sep) = true := by
  intro c hc
  rw [bne_iff_ne]
  rintro rfl
  exact h hc

lemma cutAt_append_cons (h : sep ∉ front) (back : List Char) :
    cutAt sep (front ++ sep :: back) = (front, some back) := by
  rw [cutAt, List.takeWhile_append_of_pos (bne_of_not_mem h),
    List.dropWhile_append_of_pos (bne_of_not_mem h)]
  simp

lemma cutAt_cons (sep : Char) (back : List Char) : cutAt sep (sep :: back) = ([], some back) :=
  cutAt_append_cons List.not_mem_nil back

lemma cutAt_of_not_mem (h : sep ∉ cs) : cutAt sep cs = (cs, none) := by
  rw [cutAt, List.takeWhile_eq_self_iff.mpr (bne_of_not_mem h),
    List.dropWhile_eq_nil_iff.mpr (bne_of_not_mem h)]

/-- How a text is cut: it is its first piece, the separator and the rest, or has no separator. -/
lemma cutAt_cases (sep : Char) (cs : List Char) :
    (∃ front back, cs = front ++ sep :: back ∧ sep ∉ front ∧ cutAt sep cs = (front, some back)) ∨
      (sep ∉ cs ∧ cutAt sep cs = (cs, none)) := by
  by_cases h : sep ∈ cs
  · obtain ⟨front, back, rfl, hfront⟩ := List.eq_append_cons_of_mem h
    exact .inl ⟨front, back, rfl, hfront, cutAt_append_cons hfront back⟩
  · exact .inr ⟨h, cutAt_of_not_mem h⟩

lemma not_mem_cutAt (sep : Char) (cs : List Char) : sep ∉ (cutAt sep cs).1 := by
  intro h
  simpa using List.mem_takeWhile_imp h

lemma cutAt_subset (sep : Char) (cs : List Char) : (cutAt sep cs).1 ⊆ cs := List.takeWhile_subset _

/-- Where a text is cut before the end, what stands behind it stands behind the second piece. -/
lemma cutAt_append (hsep : sep ∉ back) (front : List Char) :
    cutAt sep (front ++ back) = match cutAt sep front with
      | (before, some after) => (before, some (after ++ back))
      | (_, none) => (front ++ back, none) := by
  rcases cutAt_cases sep front with ⟨before, after, rfl, hbefore, hcut⟩ | ⟨hnot, hcut⟩
  · rw [hcut, List.append_assoc, List.cons_append, cutAt_append_cons hbefore]
  · rw [hcut, cutAt_of_not_mem (by simp [hnot, hsep])]

/-! ### What stands after the last separator -/

lemma afterLast_append (h : sep ∉ back) (front : List Char) :
    afterLast sep (front ++ back) = afterLast sep front ++ back := by
  have hback : sep ∉ back.reverse := mt List.mem_reverse.mp h
  rw [afterLast, List.reverse_append, List.takeWhile_append_of_pos (bne_of_not_mem hback),
    List.reverse_append, List.reverse_reverse, afterLast]

lemma afterLast_suffix (sep : Char) (cs : List Char) : afterLast sep cs <:+ cs :=
  List.reverse_prefix.mp (by simpa [afterLast] using List.takeWhile_prefix _)

lemma afterLast_append_cons (h : sep ∉ back) (front : List Char) :
    afterLast sep (front ++ sep :: back) = back := by
  have hback : sep ∉ back.reverse := mt List.mem_reverse.mp h
  rw [afterLast, List.reverse_append, List.reverse_cons, List.append_assoc,
    List.takeWhile_append_of_pos (bne_of_not_mem hback)]
  simp

lemma afterLast_of_not_mem (h : sep ∉ cs) : afterLast sep cs = cs := by
  have hcs : sep ∉ cs.reverse := mt List.mem_reverse.mp h
  rw [afterLast, List.takeWhile_eq_self_iff.mpr (bne_of_not_mem hcs), List.reverse_reverse]

lemma not_mem_afterLast (sep : Char) (cs : List Char) : sep ∉ afterLast sep cs := by
  intro h
  rw [afterLast, List.mem_reverse] at h
  simpa using List.mem_takeWhile_imp h

/-! ### Occurrences -/

lemma hasInfix_iff {needle : List Char} : hasInfix needle cs = true ↔ needle <:+: cs := by
  induction cs with
  | nil => simp [hasInfix]
  | cons c rest ih =>
    rw [hasInfix, Bool.or_eq_true, List.isPrefixOf_iff_prefix, ih, List.infix_cons_iff]

/-! ### Cutting at doubled separators -/

/-- Whether pieces are what stands between the doubled separators of a text, which are found from the left: no
piece has one inside, and none begins at the end of a piece that another piece follows. -/
structure AreCut (sep : Char) (pieces : List (List Char)) (cs : List Char) : Prop where
  joined : joinWith [sep, sep] pieces = cs
  ne_nil : pieces ≠ []
  inside : ∀ piece ∈ pieces, ¬ [sep, sep] <:+: piece
  ends : ∀ piece ∈ pieces.dropLast, piece.getLast? ≠ some sep

variable {piece : List Char} {pieces more : List (List Char)} {c : Char}

lemma joinWith_cons (joint : List Char) (piece : List Char) (h : more ≠ []) :
    joinWith joint (piece :: more) = piece ++ joint ++ joinWith joint more := by
  cases more with
  | nil => exact absurd rfl h
  | cons next rest => rfl

/-- A character that does not begin a doubled separator goes to the first piece. -/
lemma splitDoubled_cons (h : ¬ [sep, sep] <+: c :: cs) (hrest : splitDoubled sep cs = piece :: more) :
    splitDoubled sep (c :: cs) = (c :: piece) :: more := by
  cases cs with
  | nil =>
    obtain ⟨rfl, rfl⟩ := List.cons.inj hrest
    rfl
  | cons d rest =>
    have hnot : (c = sep && d = sep) = false := by
      rw [Bool.eq_false_iff]
      intro hboth
      obtain ⟨rfl, rfl⟩ := by simpa using hboth
      exact h ⟨rest, rfl⟩
    rw [splitDoubled, hnot, if_neg Bool.false_ne_true, hrest]

lemma splitDoubled_of_not_infix (h : ¬ [sep, sep] <:+: piece) : splitDoubled sep piece = [piece] := by
  induction piece with
  | nil => rfl
  | cons c rest ih =>
    rw [List.infix_cons_iff, not_or] at h
    exact splitDoubled_cons h.1 (ih h.2)

lemma splitDoubled_append (hinside : ¬ [sep, sep] <:+: piece) (hend : piece.getLast? ≠ some sep)
    (cs : List Char) : splitDoubled sep (piece ++ sep :: sep :: cs) = piece :: splitDoubled sep cs := by
  induction piece with
  | nil => simp [splitDoubled]
  | cons c rest ih =>
    rw [List.infix_cons_iff, not_or] at hinside
    refine splitDoubled_cons ?_ (ih hinside.2 ?_)
    · intro hbegins
      obtain ⟨rfl, hnext⟩ := List.cons_prefix_cons.mp hbegins
      cases rest with
      | nil => exact hend rfl
      | cons d more =>
        obtain ⟨rfl, -⟩ := List.cons_prefix_cons.mp hnext
        exact hinside.1 ⟨more, rfl⟩
    · cases rest with
      | nil => simp
      | cons d more => rwa [List.getLast?_cons_cons] at hend

/-- Pieces with doubled separators between them are cut there again. -/
lemma AreCut.splitDoubled_eq (h : AreCut sep pieces cs) : splitDoubled sep cs = pieces := by
  obtain ⟨rfl, hne, hinside, hends⟩ := h
  induction pieces with
  | nil => exact absurd rfl hne
  | cons piece more ih =>
    cases more with
    | nil => exact splitDoubled_of_not_infix (hinside piece List.mem_cons_self)
    | cons next rest =>
      rw [List.dropLast_cons_cons, List.forall_mem_cons] at hends
      rw [List.forall_mem_cons] at hinside
      have hmore : next :: rest ≠ [] := List.cons_ne_nil _ _
      rw [joinWith_cons _ _ hmore, List.append_assoc, List.cons_append, List.cons_append, List.nil_append,
        splitDoubled_append hinside.1 hends.1, ih hmore hinside.2 hends.2]

lemma prefix_joinWith (joint : List Char) (piece : List Char) (more : List (List Char)) :
    piece <+: joinWith joint (piece :: more) := by
  cases more with
  | nil => exact List.prefix_rfl
  | cons next rest => exact ⟨joint ++ joinWith joint (next :: rest), by simp [joinWith]⟩

lemma AreCut.nil_cons (h : AreCut sep pieces cs) : AreCut sep ([] :: pieces) (sep :: sep :: cs) where
  joined := by
    rw [joinWith_cons _ _ h.ne_nil, h.joined]
    rfl
  ne_nil := List.cons_ne_nil _ _
  inside := by simpa using h.inside
  ends := by
    rw [List.dropLast_cons_of_ne_nil h.ne_nil]
    simpa using h.ends

lemma AreCut.cons (h : AreCut sep (piece :: more) cs) (hnot : ¬ [sep, sep] <+: c :: cs) :
    AreCut sep ((c :: piece) :: more) (c :: cs) where
  joined := by
    rw [← h.joined]
    cases more <;> simp [joinWith]
  ne_nil := List.cons_ne_nil _ _
  inside := by
    rw [List.forall_mem_cons]
    refine ⟨fun hinside => ?_, fun p hp => h.inside p (List.mem_cons_of_mem _ hp)⟩
    rcases List.infix_cons_iff.mp hinside with hbegins | hrest
    · have hpiece : piece <+: cs := h.joined ▸ prefix_joinWith _ piece more
      exact hnot (hbegins.trans (List.cons_prefix_cons.mpr ⟨rfl, hpiece⟩))
    · exact h.inside piece List.mem_cons_self hrest
  ends := by
    cases more with
    | nil => simp
    | cons next rest =>
      have hends := h.ends
      rw [List.dropLast_cons_cons, List.forall_mem_cons] at hends ⊢
      refine ⟨?_, hends.2⟩
      cases piece with
      | nil =>
        -- what follows a piece without characters is a separator
        intro hlast
        obtain rfl : c = sep := by simpa using hlast
        rw [← h.joined, joinWith_cons _ _ (List.cons_ne_nil _ _)] at hnot
        exact hnot ⟨_, rfl⟩
      | cons d inner =>
        rw [List.getLast?_cons_cons]
        exact hends.1

lemma areCut_splitDoubled (sep : Char) (cs : List Char) : AreCut sep (splitDoubled sep cs) cs := by
  fun_induction splitDoubled sep cs with
  | case1 => exact ⟨rfl, by simp, by simp, by simp⟩
  | case2 c => exact ⟨rfl, by simp, by simp [List.infix_cons_iff], by simp⟩
  | case3 c d rest hboth ih =>
    obtain ⟨rfl, rfl⟩ := by simpa using hboth
    exact ih.nil_cons
  | case4 c d rest hnot piece more hpieces ih =>
    rw [hpieces] at ih
    refine ih.cons fun hbegins => hnot ?_
    obtain ⟨rfl, hnext⟩ := List.cons_prefix_cons.mp hbegins
    obtain ⟨rfl, -⟩ := List.cons_prefix_cons.mp hnext
    simp
  | case5 c d rest hnot hnone ih => exact absurd hnone ih.ne_nil

/-! ### Trimming -/

variable {drop : Char → Bool}

/-- The characters of a class that stand before anything else. -/
def leading (drop : Char → Bool) (cs : List Char) : List Char := cs.takeWhile drop

/-- The characters of a class that stand after everything else. -/
def trailing (drop : Char → Bool) (cs : List Char) : List Char :=
  (cs.dropWhile drop).rtakeWhile drop

/-- What is trimmed off stands at either end. -/
lemma leading_append_trimBy (drop : Char → Bool) (cs : List Char) :
    leading drop cs ++ (trimBy drop cs ++ trailing drop cs) = cs := by
  have hback : trimBy drop cs ++ trailing drop cs = cs.dropWhile drop := by
    rw [trimBy, trailing, List.rtakeWhile, ← List.reverse_append, List.takeWhile_append_dropWhile,
      List.reverse_reverse]
  rw [hback, leading, List.takeWhile_append_dropWhile]

lemma of_mem_leading {c : Char} (h : c ∈ leading drop cs) : drop c = true :=
  List.mem_takeWhile_imp h

lemma of_mem_trailing {c : Char} (h : c ∈ trailing drop cs) : drop c = true :=
  List.mem_takeWhile_imp (List.mem_reverse.mp h)

lemma trimBy_infix (drop : Char → Bool) (cs : List Char) : trimBy drop cs <:+: cs :=
  ⟨leading drop cs, trailing drop cs, by
    rw [List.append_assoc, leading_append_trimBy]⟩

/-- Nothing is left of a text that is trimmed if it has nothing but characters of the class. -/
lemma trimBy_eq_nil_iff : trimBy drop cs = [] ↔ ∀ c ∈ cs, drop c = true := by
  constructor
  · intro h c hc
    rw [← leading_append_trimBy drop cs, h, List.nil_append, List.mem_append] at hc
    rcases hc with hc | hc
    · exact of_mem_leading hc
    · exact of_mem_trailing hc
  · intro h
    simp [trimBy, List.dropWhile_eq_nil_iff.mpr h]

/-- What is taken out of a text anyway need not be trimmed off first. -/
lemma filter_trimBy {keep : Char → Bool} (h : ∀ c, drop c = true → keep c = false) (cs : List Char) :
    (trimBy drop cs).filter keep = cs.filter keep := by
  have hleading : (leading drop cs).filter keep = [] := by
    simpa using fun c hc => h c (of_mem_leading hc)
  have htrailing : (trailing drop cs).filter keep = [] := by
    simpa using fun c hc => h c (of_mem_trailing hc)
  conv_rhs => rw [← leading_append_trimBy drop cs]
  rw [List.filter_append, List.filter_append, hleading, htrailing, List.nil_append, List.append_nil]

/-- Where a text begins and ends with something else, what is in front of it is trimmed off, and what is
behind it is trimmed by itself. -/
lemma trimBy_append {core : List Char} (hfront : ∀ c ∈ front, drop c = true)
    (hfirst : ∃ c ∈ core.head?, drop c = false) (hlast : ∃ c ∈ core.getLast?, drop c = false)
    (back : List Char) : trimBy drop (front ++ (core ++ back)) = core ++ back.rdropWhile drop := by
  obtain ⟨first, hfirst, hkept⟩ := hfirst
  obtain ⟨more, rfl⟩ := List.head?_eq_some_iff.mp hfirst
  have hdropped : (front ++ (first :: more ++ back)).dropWhile drop = first :: more ++ back := by
    rw [List.dropWhile_append_of_pos hfront, List.cons_append,
      List.dropWhile_cons_of_neg (by simp [hkept])]
  obtain ⟨last, hlast, hkept⟩ := hlast
  obtain ⟨init, hinit⟩ := List.getLast?_eq_some_iff.mp hlast
  rw [trimBy, hdropped, hinit, List.rdropWhile, List.reverse_append, List.dropWhile_append,
    List.reverse_concat, List.dropWhile_cons_of_neg (by simp [hkept])]
  split
  · next hnil => simp [List.isEmpty_iff.mp hnil]
  · simp

lemma trimBy_eq_self {core : List Char} (hfirst : ∃ c ∈ core.head?, drop c = false)
    (hlast : ∃ c ∈ core.getLast?, drop c = false) : trimBy drop core = core := by
  have hnone : ∀ c ∈ ([] : List Char), drop c = true := by simp
  simpa using trimBy_append hnone hfirst hlast []

end Metastore.Text
