import Metastore.Backend
import Metastore.Proofs.Text.Ascii
import Metastore.Proofs.Text.Split

/-!
# Spellings of kinds

Whether a kind is known by a spelling is decided without the separators in it, and in lower case. So two
spellings that differ in separators and in the case of ASCII letters only are known for the same kind, or both
unknown (`Backend.ofSpelling?_congr`).

Whether a spelling deserves a warning is decided differently: with the separators in it, but those at either
end that are white space. The two decisions agree except on the spellings of the caller's own store with
separators in them, which are known and deserve a warning all the same (`Backend.isUnknown_iff`).
-/

namespace Metastore.Backend

variable {s t : String}

/-! ### Spellings alike -/

/-- The characters of a spelling that matter, with ASCII letters in lower case. -/
def letters (s : String) : List Char := (s.toList.filter (!isSeparator ·)).map Char.toLower

/-- Whether two spellings differ in nothing but separators and the case of ASCII letters. -/
def SpelledAlike (s t : String) : Prop := letters s = letters t

instance (s t : String) : Decidable (SpelledAlike s t) := inferInstanceAs (Decidable (_ = _))

lemma normalize_eq (s : String) : normalize s.toList = Text.lowerAfter [] (letters s) :=
  (Text.lowerAfter_map_toLower [] _).symm

/-- Spellings alike are known for the same kind, or both unknown. -/
lemma ofSpelling?_congr (h : SpelledAlike s t) : ofSpelling? s = ofSpelling? t := by
  rw [ofSpelling?, ofSpelling?, normalize_eq, normalize_eq, h]

/-! ### Known spellings -/

/-- Whether a spelling is, in lower case and without separators, one of those that kinds are known for. -/
def IsKnown (s : String) : Prop := String.ofList (normalize s.toList) ∈ aliases.map (·.1)

lemma isKnown_iff : IsKnown s ↔ (ofSpelling? s).isSome = true := by
  rw [IsKnown, ofSpelling?, List.lookup_isSome_iff, List.mem_map]
  refine exists_congr fun named => and_congr_right fun _ => ?_
  rw [beq_iff_eq, eq_comm]

/-- The caller's own store has no other name. -/
lemma ofSpelling?_eq_local_iff :
    ofSpelling? s = some .local ↔ normalize s.toList = Backend.local.name.toList := by
  have hname : normalize s.toList = Backend.local.name.toList ↔
      String.ofList (normalize s.toList) = Backend.local.name := by
    rw [← String.toList_inj, String.toList_ofList]
  rw [ofSpelling?, hname]
  constructor
  · intro h
    obtain ⟨before, after, heq, -⟩ := List.lookup_eq_some_iff.mp h
    have hmem : (String.ofList (normalize s.toList), Backend.local) ∈ aliases := by simp [heq]
    simpa [aliases, Backend.name] using hmem
  · intro h
    rw [h]
    rfl

/-! ### Spellings that deserve a warning -/

/-- Whether a spelling is that of the caller's own store, with separators in it that trimming leaves. -/
def IsSeparatedLocal (s : String) : Prop :=
  normalize s.toList = Backend.local.name.toList ∧ ∃ c ∈ Text.trimBy Text.isBlank s.toList, isSeparator c = true

/-- Separators are no letters. -/
lemma isLetter_of_isSeparator {c : Char} (h : isSeparator c = true) : Text.isLetter c = false := by
  simp only [isSeparator, Bool.or_eq_true, decide_eq_true_eq] at h
  rcases h with (hblank | rfl) | rfl
  · exact Text.isLetter_of_isBlank hblank
  · decide
  · decide

/-- Trimmed and in lower case, a spelling is the name of the caller's own store if it is that without separators,
and there are none to be left out. -/
lemma lower_trim_eq_local_iff : Text.lower (Text.trim s) = Backend.local.name ↔
    normalize s.toList = Backend.local.name.toList ∧
      ∀ c ∈ Text.trimBy Text.isBlank s.toList, isSeparator c = false := by
  have hword : ∀ d ∈ Backend.local.name.toList, ¬ Text.IsForeign d := by
    simp [Backend.name, Text.IsForeign]
  have hletters : ∀ d ∈ Backend.local.name.toList, Text.isLetter d = true := by
    simp [Backend.name, Text.isLetter]
  have hfilter : (Text.trimBy Text.isBlank s.toList).filter (!isSeparator ·) =
      s.toList.filter (!isSeparator ·) := by
    apply Text.filter_trimBy
    intro c hblank
    simp [isSeparator, hblank]
  rw [← String.toList_inj, Text.lower, Text.trim, String.toList_ofList, String.toList_ofList, normalize,
    Text.lowerAfter_eq_iff hword, Text.lowerAfter_eq_iff hword, ← hfilter]
  generalize Text.trimBy Text.isBlank s.toList = trimmed
  constructor
  · intro htrimmed
    have hnone : ∀ c ∈ trimmed, isSeparator c = false := by
      intro c hc
      by_contra hseparator
      have hletter := hletters c.toLower (htrimmed ▸ List.mem_map_of_mem hc)
      rw [Text.isLetter_toLower, isLetter_of_isSeparator (by simpa using hseparator)] at hletter
      cases hletter
    rw [List.filter_eq_self.mpr (by simpa using hnone)]
    exact ⟨htrimmed, hnone⟩
  · rintro ⟨hnormal, hnone⟩
    rwa [List.filter_eq_self.mpr (by simpa using hnone)] at hnormal

/-- Of the spellings by which the caller's own store is selected, those deserve a warning that are not blank and
either unknown or known with separators in them. -/
lemma isUnknown_iff (hlocal : (ofSpelling? s).getD .local = .local) : isUnknown s = true ↔
    (∃ c ∈ s.toList, Text.isBlank c = false) ∧ (¬ IsKnown s ∨ IsSeparatedLocal s) := by
  have hblank : (Text.trim s).isEmpty = false ↔ ∃ c ∈ s.toList, Text.isBlank c = false := by
    rw [← Bool.not_eq_true, String.isEmpty_iff, ← String.toList_inj, Text.trim, String.toList_ofList]
    simp [Text.trimBy_eq_nil_iff]
  have hknown : normalize s.toList = Backend.local.name.toList ↔ IsKnown s := by
    rw [← ofSpelling?_eq_local_iff, isKnown_iff]
    cases h : ofSpelling? s <;> simp_all
  rw [isUnknown, Bool.and_eq_true, Bool.not_eq_true', hblank, bne_iff_ne, Ne, lower_trim_eq_local_iff,
    IsSeparatedLocal, hknown]
  refine and_congr_right fun _ => ?_
  by_cases h : IsKnown s <;> simp [h]

end Metastore.Backend
