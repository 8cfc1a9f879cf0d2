import Mathlib
import Metastore.Text.Blank
import Metastore.Text.Case
import Metastore.Text.Digits

/-!
# ASCII

Texts of ASCII characters, and what lower case does to them: every character by itself, and only capital
letters at all, so that signs and digits stay what they are.
-/

namespace Metastore.Text

/-- Whether characters are all ASCII. -/
def IsAscii (cs : List Char) : Prop := ∀ c ∈ cs, c.toNat < 128

variable {cs ds : List Char} {c d : Char}

@[simp] lemma isAscii_nil : IsAscii [] := by simp [IsAscii]

@[simp] lemma isAscii_cons : IsAscii (c :: cs) ↔ c.toNat < 128 ∧ IsAscii cs := by simp [IsAscii]

@[simp] lemma isAscii_append : IsAscii (cs ++ ds) ↔ IsAscii cs ∧ IsAscii ds := by
  rw [IsAscii, List.forall_mem_append]
  rfl

lemma IsAscii.mono (h : IsAscii cs) (hsubset : ds ⊆ cs) : IsAscii ds := fun c hc => h c (hsubset hc)

lemma isAscii_toDigits {base : Nat} (hone : 1 < base) (hbase : base ≤ 16) (n : Nat) :
    IsAscii (Nat.toDigits base n) := by
  have hdigit : ∀ d < 16, d.digitChar.toNat < 128 := by decide
  induction n using Nat.strongRecOn with
  | ind n ih =>
    rcases Nat.lt_or_ge n base with hlt | hge
    · rw [Nat.toDigits_of_lt_base hlt]
      simp [hdigit n (by omega)]
    · have hmod : n % base < base := Nat.mod_lt n (by omega)
      rw [Nat.toDigits_of_base_le hone hge, isAscii_append]
      refine ⟨ih (n / base) (Nat.div_lt_self (by omega) hone), ?_⟩
      simp [hdigit (n % base) (by omega)]

lemma isAscii_padZeros (width : Nat) (h : IsAscii cs) : IsAscii (padZeros width cs) := by
  rw [padZeros, isAscii_append]
  refine ⟨?_, h⟩
  intro c hc
  rw [List.eq_of_mem_replicate hc]
  decide

lemma isAscii_integer (n : Int) : IsAscii (integer n) := by
  have hdecimal : IsAscii (decimal n.natAbs) := isAscii_toDigits (by decide) (by decide) _
  rw [integer]
  split
  · simp [hdecimal]
  · exact hdecimal

/-! ### Classes of characters -/

lemma isDigit_iff : isDigit c = true ↔ 48 ≤ c.toNat ∧ c.toNat ≤ 57 := by
  simp only [isDigit, Bool.and_eq_true, decide_eq_true_eq]
  rfl

lemma isLetter_iff : isLetter c = true ↔
    97 ≤ c.toNat ∧ c.toNat ≤ 122 ∨ 65 ≤ c.toNat ∧ c.toNat ≤ 90 := by
  simp only [isLetter, Bool.or_eq_true, Bool.and_eq_true, decide_eq_true_eq]
  rfl

lemma isHexDigit_iff : isHexDigit c = true ↔ (48 ≤ c.toNat ∧ c.toNat ≤ 57) ∨
    (97 ≤ c.toNat ∧ c.toNat ≤ 102) ∨ 65 ≤ c.toNat ∧ c.toNat ≤ 70 := by
  simp only [isHexDigit, Bool.or_eq_true, isDigit_iff, Bool.and_eq_true, decide_eq_true_eq, or_assoc]
  rfl

lemma isUpper_iff : c.isUpper = true ↔ 65 ≤ c.toNat ∧ c.toNat ≤ 90 := by
  simp only [Char.isUpper, decide_eq_true_eq]
  rfl

/-- White space is no digit. -/
lemma isDigit_of_isBlank (h : isBlank c = true) : isDigit c = false := by
  rw [Bool.eq_false_iff, Ne, isDigit_iff]
  simp [isBlank, blankRanges, inRanges] at h
  omega

/-- White space is no letter. -/
lemma isLetter_of_isBlank (h : isBlank c = true) : isLetter c = false := by
  rw [Bool.eq_false_iff, Ne, isLetter_iff]
  simp [isBlank, blankRanges, inRanges] at h
  omega

/-! ### Lower case -/

lemma toNat_toLower (c : Char) :
    c.toLower.toNat = if 65 ≤ c.toNat ∧ c.toNat ≤ 90 then c.toNat + 32 else c.toNat := by
  by_cases h : c.isUpper = true
  · have hbounds := isUpper_iff.mp h
    have hvalid : (c.toNat + 32).isValidChar := .inl (by omega)
    rw [Char.toLower_eq_of_isUpper h, if_pos hbounds, Char.toNat_ofNat, if_pos hvalid]
  · rw [Char.toLower_eq_of_not_isUpper h, if_neg (mt isUpper_iff.mpr h)]

/-- A character that is no letter is in lower case only the form of itself. -/
lemma toLower_eq_iff (hd : isLetter d = false) : c.toLower = d ↔ c = d := by
  rw [Bool.eq_false_iff, Ne, isLetter_iff] at hd
  rw [← Char.toNat_inj, toNat_toLower, ← Char.toNat_inj]
  split <;> omega

lemma isDigit_toLower (c : Char) : isDigit c.toLower = isDigit c := by
  rw [Bool.eq_iff_iff, isDigit_iff, isDigit_iff, toNat_toLower]
  split <;> omega

lemma isLetter_toLower (c : Char) : isLetter c.toLower = isLetter c := by
  rw [Bool.eq_iff_iff, isLetter_iff, isLetter_iff, toNat_toLower]
  split <;> omega

lemma isHexDigit_toLower (c : Char) : isHexDigit c.toLower = isHexDigit c := by
  rw [Bool.eq_iff_iff, isHexDigit_iff, isHexDigit_iff, toNat_toLower]
  split <;> omega

lemma isAscii_map_toLower (h : IsAscii cs) : IsAscii (cs.map Char.toLower) := by
  intro c hc
  obtain ⟨d, hd, rfl⟩ := List.mem_map.mp hc
  have hascii := h d hd
  rw [toNat_toLower]
  split <;> omega

/-- In ASCII every character is put in lower case by itself. -/
lemma lowerAfter_of_isAscii (h : IsAscii cs) (before : List Char) :
    lowerAfter before cs = cs.map Char.toLower := by
  induction cs generalizing before with
  | nil => rfl
  | cons c rest ih =>
    rw [isAscii_cons] at h
    have hsigma : c ≠ 'Σ' := by
      rintro rfl
      exact absurd h.1 (by decide)
    rw [lowerAfter, if_neg hsigma, lowerChar, if_pos h.1, ih h.2]
    rfl

/-! ### Lower case without regard to the case of ASCII letters -/

@[simp] lemma toLower_toLower (c : Char) : c.toLower.toLower = c.toLower := by
  rw [← Char.toNat_inj, toNat_toLower c.toLower, toNat_toLower]
  split_ifs <;> omega

/-- A class that has both forms of an ASCII letter or neither does not tell them apart. -/
lemma inRanges_toLower {ranges : List (Nat × Nat)}
    (hletters : ∀ n, 65 ≤ n → n ≤ 90 → inRanges ranges (n + 32) = inRanges ranges n) (c : Char) :
    inRanges ranges c.toLower.toNat = inRanges ranges c.toNat := by
  rw [toNat_toLower]
  split
  · next hupper => exact hletters c.toNat hupper.1 hupper.2
  · rfl

@[simp] lemma isCased_toLower (c : Char) : isCased c.toLower = isCased c :=
  inRanges_toLower (by decide +kernel) c

@[simp] lemma isIgnorable_toLower (c : Char) : isIgnorable c.toLower = isIgnorable c :=
  inRanges_toLower (by decide +kernel) c

@[simp] lemma lowerChar_toLower (c : Char) : lowerChar c.toLower = lowerChar c := by
  by_cases hascii : c.toNat < 128
  · have hlower : c.toLower.toNat < 128 := by
      rw [toNat_toLower]
      split <;> omega
    rw [lowerChar, lowerChar, if_pos hascii, if_pos hlower, toLower_toLower]
  · have hself : c.toLower = c := by
      rw [← Char.toNat_inj, toNat_toLower, if_neg (by omega)]
    rw [hself]

lemma meetsCased_cons (c : Char) (cs : List Char) :
    meetsCased (c :: cs) = if isIgnorable c then meetsCased cs else isCased c := by
  by_cases h : isIgnorable c <;> simp [meetsCased, h]

@[simp] lemma meetsCased_map_toLower (cs : List Char) : meetsCased (cs.map Char.toLower) = meetsCased cs := by
  induction cs with
  | nil => rfl
  | cons c rest ih => simp [meetsCased_cons, ih]

/-- Lower case does not depend on the case of ASCII letters, also not where a sigma stands among them. -/
lemma lowerAfter_map_toLower (before cs : List Char) :
    lowerAfter (before.map Char.toLower) (cs.map Char.toLower) = lowerAfter before cs := by
  induction cs generalizing before with
  | nil => rfl
  | cons c rest ih =>
    have hsigma : c.toLower = 'Σ' ↔ c = 'Σ' := toLower_eq_iff (by decide)
    rw [List.map_cons, lowerAfter, lowerAfter, ← ih (c :: before)]
    simp only [hsigma, lowerSigma, meetsCased_map_toLower, lowerChar_toLower, List.map_cons]

/-! ### Words in any letter case -/

/-- Whether a character may be the lower case of one outside of ASCII, as k is that of the sign for kelvin. -/
def IsForeign (d : Char) : Prop := d.toNat = 0 ∨ d = 'k' ∨ 128 ≤ d.toNat

instance : DecidablePred IsForeign := fun _ => inferInstanceAs (Decidable (_ ∨ _))

lemma lowerIn_cases {runs : List (Nat × Nat × Nat × Bool × Nat)} {n : Nat}
    (hruns : ∀ run ∈ runs, run.2.2.2.1 = true ∨ 128 + run.2.2.2.2 ≤ run.1 ∨
      run.1 = run.2.1 ∧ run.1 = 107 + run.2.2.2.2)
    (hn : 128 ≤ n) : 128 ≤ lowerIn runs n ∨ lowerIn runs n = 107 := by
  induction runs with
  | nil => exact .inl hn
  | cons run rest ih =>
    obtain ⟨first, last, step, up, distance⟩ := run
    obtain ⟨hrun, hrest⟩ := List.forall_mem_cons.mp hruns
    rw [lowerIn]
    split
    · exact .inl hn
    · next hfirst =>
      split
      · next hlast =>
        have hle : n ≤ last := by simp_all
        cases up with
        | true =>
          left
          rw [if_pos rfl]
          omega
        | false =>
          rw [if_neg Bool.false_ne_true]
          simp only [Bool.false_eq_true, false_or] at hrun
          omega
      · exact ih hrest

lemma exists_mem_lowerChar (h : 128 ≤ c.toNat) : ∃ d ∈ lowerChar c, IsForeign d := by
  rw [lowerChar, if_neg (by omega)]
  split
  · exact ⟨'\u0307', by simp, .inr (.inr (by decide))⟩
  · refine ⟨_, List.mem_singleton_self _, ?_⟩
    have hruns : ∀ run ∈ lowerRuns, run.2.2.2.1 = true ∨ 128 + run.2.2.2.2 ≤ run.1 ∨
        run.1 = run.2.1 ∧ run.1 = 107 + run.2.2.2.2 := by decide +kernel
    rcases lowerIn_cases hruns h with hfar | hk
    · rw [IsForeign, Char.toNat_ofNat]
      split
      · exact .inr (.inr hfar)
      · exact .inl rfl
    · exact .inr (.inl (by rw [hk]))

lemma isAscii_of_lowerAfter {before : List Char} (h : ∀ d ∈ lowerAfter before cs, ¬ IsForeign d) :
    IsAscii cs := by
  induction cs generalizing before with
  | nil => exact isAscii_nil
  | cons c rest ih =>
    rw [lowerAfter, List.forall_mem_append] at h
    rw [isAscii_cons]
    refine ⟨?_, ih h.2⟩
    by_contra hc
    split at h
    · refine h.1 _ (List.mem_singleton_self _) (.inr (.inr ?_))
      rw [lowerSigma]
      split <;> decide
    · obtain ⟨d, hd, hforeign⟩ := exists_mem_lowerChar (Nat.le_of_not_lt hc)
      exact h.1 d hd hforeign

/-- A text in lower case is a word without k if it is the word in any case of its letters. -/
lemma lowerAfter_eq_iff {word : List Char} (hword : ∀ d ∈ word, ¬ IsForeign d) (before : List Char) :
    lowerAfter before cs = word ↔ cs.map Char.toLower = word := by
  constructor
  · rintro rfl
    exact (lowerAfter_of_isAscii (isAscii_of_lowerAfter hword) before).symm
  · rintro rfl
    refine lowerAfter_of_isAscii (fun c hc => ?_) before
    have hlower := hword c.toLower (List.mem_map_of_mem hc)
    rw [IsForeign, toNat_toLower] at hlower
    by_contra hfar
    exact hlower (.inr (.inr (by split <;> omega)))

end Metastore.Text
