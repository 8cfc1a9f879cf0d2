import Metastore.Proofs.Text.Split
import Metastore.Url

/-!
# Authorities

Which authorities can be split (`Url.isSound_iff`). Brackets come in pairs, stand around an address with
nothing but a port behind it, and no character may stand for a delimiter; so a text of ASCII without
brackets always can (`Url.splits_of_plain`).
-/

namespace Metastore.Url

open Text (cutAt)
open Endpoint.Address (isBracketed)

/-- The authority that a text is split into. -/
def authorityIn (cs : List Char) : List Char := authorityOf (cutScheme (clean cs)).2

lemma split?_eq (cs : List Char) :
    split? cs = if isSound (authorityIn cs) then
      some ⟨(cutScheme (clean cs)).1, authorityIn cs⟩ else none := rfl

/-! ### What can be split -/

/-- Whether the part of an authority with the host fits brackets that stand somewhere in the authority.
Only the first two forms are meant; the others are what is let through with a bracket in front of the
last `@`. -/
inductive Bracketed : List Char → Prop
  | closed {address : List Char} (hclose : ']' ∉ address) (haddress : isBracketed address = true) :
      Bracketed ('[' :: (address ++ [']']))
  | withPort {address port : List Char} (hclose : ']' ∉ address)
      (haddress : isBracketed address = true) : Bracketed ('[' :: (address ++ ']' :: ':' :: port))
  | unclosed {address : List Char} (hclose : ']' ∉ address) (haddress : isBracketed address = true) :
      Bracketed ('[' :: address)
  | outside {part : List Char} (hopen : '[' ∉ part) (haddress : isBracketed (cutAt ':' part).1 = true) :
      Bracketed part

/-- Whether an authority can be split. -/
structure Splits (authority : List Char) : Prop where
  brackets : ('[' ∉ authority ∧ ']' ∉ authority) ∨
    '[' ∈ authority ∧ ']' ∈ authority ∧ Bracketed (hostPart authority)
  undisguised : ∀ c ∈ authority, c ∉ disguisedDelimiters

variable {authority cs : List Char}

lemma bracketsFit_iff : bracketsFit authority = true ↔ Bracketed (hostPart authority) := by
  rw [bracketsFit]
  generalize hostPart authority = part
  constructor
  · intro h
    rcases Text.cutAt_cases '[' part with ⟨before, inside, rfl, -, hcut⟩ | ⟨hopen, hcut⟩
    · simp only [hcut, Bool.and_eq_true, List.isEmpty_iff] at h
      obtain ⟨⟨rfl, hport⟩, haddress⟩ := h
      rcases Text.cutAt_cases ']' inside with ⟨address, after, rfl, hclose, hcut⟩ | ⟨hclose, hcut⟩
      · rw [hcut] at hport haddress
        cases after with
        | nil => exact .closed hclose haddress
        | cons c port =>
          obtain rfl : c = ':' := by simpa using hport
          exact .withPort hclose haddress
      · rw [hcut] at haddress
        exact .unclosed hclose haddress
    · rw [hcut] at h
      exact .outside hopen h
  · intro h
    cases h with
    | closed hclose haddress =>
      simp only [Text.cutAt_cons, Text.cutAt_append_cons hclose, haddress]
      rfl
    | withPort hclose haddress =>
      simp only [Text.cutAt_cons, Text.cutAt_append_cons hclose, haddress]
      rfl
    | unclosed hclose haddress =>
      simp only [Text.cutAt_cons, Text.cutAt_of_not_mem hclose, haddress]
      rfl
    | outside hopen haddress =>
      rw [Text.cutAt_of_not_mem hopen]
      exact haddress

lemma isSound_iff : isSound authority = true ↔ Splits authority := by
  have hsound : isSound authority = true ↔
      (('[' ∈ authority ↔ ']' ∈ authority) ∧ ('[' ∈ authority → Bracketed (hostPart authority))) ∧
        ∀ c ∈ authority, c ∉ disguisedDelimiters := by
    rw [isSound, Bool.and_eq_true, Bool.and_eq_true, beq_iff_eq, Bool.eq_iff_iff, Bool.or_eq_true,
      Bool.not_eq_true', Bool.not_eq_true', ← Bool.not_eq_true, ← imp_iff_not_or, bracketsFit_iff,
      List.any_eq_false]
    simp only [List.contains_iff_mem]
  rw [hsound]
  constructor
  · rintro ⟨⟨hsame, hfit⟩, hplain⟩
    refine ⟨?_, hplain⟩
    by_cases hopen : '[' ∈ authority
    · exact .inr ⟨hopen, hsame.mp hopen, hfit hopen⟩
    · exact .inl ⟨hopen, mt hsame.mpr hopen⟩
  · rintro ⟨hbrackets, hplain⟩
    refine ⟨?_, hplain⟩
    rcases hbrackets with ⟨hopen, hclose⟩ | ⟨hopen, hclose, hfit⟩
    · exact ⟨iff_of_false hopen hclose, fun h => absurd h hopen⟩
    · exact ⟨iff_of_true hopen hclose, fun _ => hfit⟩

/-! ### Texts that always can -/

lemma authorityOf_subset (cs : List Char) : authorityOf cs ⊆ cs := by
  intro c hc
  rw [authorityOf.eq_def] at hc
  split at hc
  · exact List.mem_cons_of_mem _ (List.mem_cons_of_mem _ (List.takeWhile_subset _ hc))
  · cases hc

lemma cutScheme_subset (cs : List Char) : (cutScheme cs).2 ⊆ cs := by
  rcases Text.cutAt_cases ':' cs with ⟨before, after, rfl, -, hcut⟩ | ⟨-, hcut⟩
  · rw [cutScheme, hcut]
    dsimp only
    split
    · exact List.subset_append_of_subset_right _ (List.subset_cons_self _ _)
    · exact List.Subset.refl _
  · rw [cutScheme, hcut]
    exact List.Subset.refl _

lemma clean_subset (cs : List Char) : clean cs ⊆ cs :=
  fun _ hc => List.dropWhile_subset _ (List.mem_of_mem_filter hc)

/-- An authority is part of the text that it is in. -/
lemma authorityIn_subset (cs : List Char) : authorityIn cs ⊆ cs :=
  fun _ hc => clean_subset cs (cutScheme_subset _ (authorityOf_subset _ hc))

/-- A character of ASCII that is no bracket. -/
def IsPlain (c : Char) : Prop := c.toNat < 128 ∧ c ≠ '[' ∧ c ≠ ']'

/-- No character of ASCII stands for a delimiter. -/
lemma not_mem_disguisedDelimiters {c : Char} (h : c.toNat < 128) : c ∉ disguisedDelimiters := by
  have hascii : ∀ d ∈ disguisedDelimiters, ¬ d.toNat < 128 := by simp [disguisedDelimiters]
  exact fun hdisguised => hascii c hdisguised h

lemma Splits.of_plain (h : ∀ c ∈ authority, IsPlain c) : Splits authority := by
  refine ⟨.inl ⟨fun hopen => ?_, fun hclose => ?_⟩, fun c hc => ?_⟩
  · exact (h _ hopen).2.1 rfl
  · exact (h _ hclose).2.2 rfl
  · exact not_mem_disguisedDelimiters (h c hc).1

lemma splits_of_plain (h : ∀ c ∈ cs, IsPlain c) : Splits (authorityIn cs) :=
  .of_plain fun c hc => h c (authorityIn_subset cs hc)

end Metastore.Url
