import Metastore.Proofs.Endpoint.Authority

/-!
# Splitting texts with a scheme

A text with a host is, once it is cleaned, a scheme with a colon, two slashes, and a rest that the authority
stands at the front of. What stands around the text is dropped by cleaning, or becomes part of the rest
(`Url.Opens.surround`).
-/

namespace Metastore.Url

variable {cs front before after rest : List Char}

/-! ### Schemes -/

lemma cutScheme_append (hcolon : ':' ∉ before) (hscheme : isScheme before = true)
    (after : List Char) :
    cutScheme (before ++ ':' :: after) = (before.map Char.toLower, after) := by
  rw [cutScheme, Text.cutAt_append_cons hcolon]
  simp only [hscheme, if_true]

lemma cutScheme_cases (cs : List Char) :
    (∃ before after, cs = before ++ ':' :: after ∧ ':' ∉ before ∧ isScheme before = true ∧
      cutScheme cs = (before.map Char.toLower, after)) ∨ cutScheme cs = ([], cs) := by
  rcases Text.cutAt_cases ':' cs with ⟨before, after, rfl, hcolon, hcut⟩ | ⟨-, hcut⟩
  · by_cases hscheme : isScheme before = true
    · exact .inl ⟨before, after, rfl, hcolon, hscheme, cutScheme_append hcolon hscheme after⟩
    · right
      rw [cutScheme, hcut]
      simp only [hscheme]
      rfl
  · right
    rw [cutScheme, hcut]

/-- Nothing is cut off a text that starts with something else than a letter. -/
lemma cutScheme_of_not_isLetter {c : Char} (h : Text.isLetter c = false) (rest : List Char) :
    cutScheme (c :: rest) = ([], c :: rest) := by
  rcases cutScheme_cases (c :: rest) with ⟨before, after, hcs, -, hscheme, -⟩ | hcut
  · cases before with
    | nil => cases hscheme
    | cons d more =>
      obtain rfl : c = d := (List.cons.inj hcs).1
      rw [isScheme, h, Bool.false_and] at hscheme
      cases hscheme
  · exact hcut

/-! ### Cleaning -/

lemma clean_append (h : ∃ c ∈ front, isLeading c = false) (back : List Char) :
    clean (front ++ back) = clean front ++ back.filter (!isDropped ·) := by
  have hkept : (front.dropWhile isLeading).isEmpty = false := by
    obtain ⟨c, hc, hleading⟩ := h
    rw [Bool.eq_false_iff, Ne, List.isEmpty_iff, List.dropWhile_eq_nil_iff]
    intro hall
    rw [hall c hc] at hleading
    cases hleading
  rw [clean, List.dropWhile_append, hkept, clean]
  exact List.filter_append _ _

lemma clean_append_of_leading (h : ∀ c ∈ front, isLeading c = true) (back : List Char) :
    clean (front ++ back) = clean back := by
  rw [clean, List.dropWhile_append_of_pos h, clean]

/-- What is dropped anywhere is dropped in front. -/
lemma isDropped_of_not_isLeading {c : Char} (h : isLeading c = false) : isDropped c = false := by
  rw [Bool.eq_false_iff]
  intro hc
  simp only [isDropped, Bool.or_eq_true, decide_eq_true_eq] at hc
  rcases hc with (rfl | rfl) | rfl <;> cases h

/-- The first character that is not dropped stays in front. -/
lemma exists_clean_eq_cons {c : Char} (hlead : ∀ d ∈ front, isLeading d = true)
    (h : isLeading c = false) (rest : List Char) :
    ∃ more, clean (front ++ c :: rest) = c :: more := by
  rw [clean_append_of_leading hlead, clean, List.dropWhile_cons_of_neg (by simp [h]),
    List.filter_cons_of_pos (by simp [isDropped_of_not_isLeading h])]
  exact ⟨_, rfl⟩

/-! ### Texts with a scheme and an authority -/

/-- Whether a text is, once it is cleaned, a scheme with its colon, two slashes and a rest. -/
structure Opens (cs before rest : List Char) : Prop where
  clean_eq : clean cs = before ++ ':' :: '/' :: '/' :: rest
  colon : ':' ∉ before
  isScheme_eq : isScheme before = true

namespace Opens

/-- There is one way to cut a text so. -/
lemma unique {before' rest' : List Char} (h : Opens cs before rest) (h' : Opens cs before' rest') :
    before = before' ∧ rest = rest' := by
  have hboth := h.clean_eq.symm.trans h'.clean_eq
  have hcut := congrArg (Text.cutAt ':') hboth
  rw [Text.cutAt_append_cons h.colon, Text.cutAt_append_cons h'.colon] at hcut
  simpa using hcut

lemma split?_eq (h : Opens cs before rest) :
    split? cs = if isSound (rest.takeWhile (!endsAuthority ·)) then
      some ⟨before.map Char.toLower, rest.takeWhile (!endsAuthority ·)⟩ else none := by
  rw [split?, h.clean_eq, cutScheme_append h.colon h.isScheme_eq]
  rfl

/-- Control characters and spaces in front are dropped, and what stands behind belongs to the rest. -/
lemma surround (h : Opens cs before rest) (hlead : ∀ c ∈ front, isLeading c = true)
    (back : List Char) :
    Opens (front ++ (cs ++ back)) before (rest ++ back.filter (!isDropped ·)) := by
  have hcolon : ':' ∈ cs := clean_subset cs (by simp [h.clean_eq])
  refine ⟨?_, h.colon, h.isScheme_eq⟩
  rw [clean_append_of_leading hlead, clean_append ⟨':', hcolon, by decide⟩, h.clean_eq]
  simp

end Opens

/-- A text that is split and has a host opens with a scheme. -/
lemma opens_of_split? {url : Url} (h : split? cs = some url) (hscheme : url.scheme ≠ [])
    (hhost : url.host ≠ []) :
    ∃ before rest, Opens cs before rest ∧ url.scheme = before.map Char.toLower ∧
      url.authority = rest.takeWhile (!endsAuthority ·) ∧ isSound url.authority = true := by
  rw [Url.split?_eq] at h
  split at h
  · next hsound =>
    obtain rfl := Option.some.inj h
    rcases cutScheme_cases (clean cs) with ⟨before, after, hclean, hcolon, hbefore, hcut⟩ | hcut
    · have hauthority : authorityIn cs = authorityOf after := by rw [authorityIn, hcut]
      rw [authorityOf.eq_def] at hauthority
      split at hauthority
      · next rest => exact ⟨before, rest, ⟨hclean, hcolon, hbefore⟩, by rw [hcut], hauthority, hsound⟩
      · rw [hauthority] at hhost
        exact absurd rfl hhost
    · rw [hcut] at hscheme
      exact absurd rfl hscheme
  · cases h

end Metastore.Url
