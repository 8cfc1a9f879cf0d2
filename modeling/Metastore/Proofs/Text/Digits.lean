import Mathlib
import Metastore.Text.Digits

/-!
# Reading digits back

The digits of a number, in any base up to sixteen and with any number of zeros in front, are read as
that number.
-/

namespace Metastore.Text

variable {base : Nat}

lemma digitValue?_digitChar {d : Nat} (hd : d < base) (hbase : base ≤ 16) :
    digitValue? base d.digitChar = some d := by
  have hvalue : ∀ d < 16, digitValue? 16 d.digitChar = some d := by decide
  have h16 := hvalue d (by omega)
  simp only [digitValue?, Option.filter_eq_some_iff] at h16 ⊢
  exact ⟨h16.1, by simpa using hd⟩

lemma readDigitsFrom_append (acc : Nat) (front back : List Char) :
    readDigitsFrom base acc (front ++ back) =
      (readDigitsFrom base acc front).bind fun n => readDigitsFrom base n back := by
  induction front generalizing acc with
  | nil => rfl
  | cons c rest ih =>
    simp only [List.cons_append, readDigitsFrom]
    cases digitValue? base c with
    | none => rfl
    | some d => exact ih _

lemma readDigitsFrom_toDigits (hone : 1 < base) (hbase : base ≤ 16) (n : Nat) :
    readDigitsFrom base 0 (Nat.toDigits base n) = some n := by
  induction n using Nat.strongRecOn with
  | ind n ih =>
    rcases Nat.lt_or_ge n base with hlt | hge
    · rw [Nat.toDigits_of_lt_base hlt]
      simp [readDigitsFrom, digitValue?_digitChar hlt hbase]
    · have hmod : n % base < base := Nat.mod_lt n (by omega)
      rw [Nat.toDigits_of_base_le hone hge, readDigitsFrom_append,
        ih (n / base) (Nat.div_lt_self (by omega) hone)]
      simp only [Option.bind_some, readDigitsFrom, digitValue?_digitChar hmod hbase,
        Option.some.injEq]
      exact Nat.div_add_mod' n base

/-- Zeros in front make no difference. -/
lemma readDigitsFrom_zeros (hone : 1 < base) (count : Nat) (digits : List Char) :
    readDigitsFrom base 0 (List.replicate count '0' ++ digits) = readDigitsFrom base 0 digits := by
  induction count with
  | zero => rfl
  | succ count ih =>
    have hzero : digitValue? base '0' = some 0 := by
      rw [digitValue?, Option.filter_eq_some_iff]
      exact ⟨rfl, by simpa using Nat.lt_of_succ_lt hone⟩
    simp only [List.replicate_succ, List.cons_append, readDigitsFrom, hzero, Option.bind_some,
      Nat.zero_mul, Nat.add_zero]
    exact ih

lemma padZeros_ne_nil (width n : Nat) : padZeros width (Nat.toDigits base n) ≠ [] := by
  simp [padZeros, Nat.toDigits_ne_nil]

lemma readDigits_padZeros (hone : 1 < base) (hbase : base ≤ 16) (width n : Nat) :
    readDigits base (padZeros width (Nat.toDigits base n)) = some n := by
  rw [readDigits, if_neg (by simpa using padZeros_ne_nil width n), padZeros,
    readDigitsFrom_zeros hone, readDigitsFrom_toDigits hone hbase]

lemma readDigits_toDigits (hone : 1 < base) (hbase : base ≤ 16) (n : Nat) :
    readDigits base (Nat.toDigits base n) = some n := by
  rw [readDigits, if_neg (by simp [Nat.toDigits_ne_nil]), readDigitsFrom_toDigits hone hbase]

/-- Digits that fit are padded to exactly the width. -/
lemma length_padZeros (hone : 1 < base) {width n : Nat} (hwidth : 0 < width)
    (h : n < base ^ width) :
    (padZeros width (Nat.toDigits base n)).length = width := by
  have hlength : (Nat.toDigits base n).length ≤ width :=
    (Nat.length_toDigits_le_iff hone hwidth).mpr h
  simp only [padZeros, List.length_append, List.length_replicate]
  omega

/-- Every decimal digit is one. -/
lemma isDigit_of_mem_decimal {n : Nat} {c : Char} (h : c ∈ decimal n) : isDigit c = true := by
  have hdigit := Nat.isDigit_of_mem_toDigits (by decide) (by decide) h
  simp only [Char.isDigit, Bool.and_eq_true, decide_eq_true_eq] at hdigit
  simp only [isDigit, Bool.and_eq_true, decide_eq_true_eq]
  exact hdigit

lemma not_mem_decimal {c : Char} (h : isDigit c = false) (n : Nat) : c ∉ decimal n := by
  intro hmem
  rw [isDigit_of_mem_decimal hmem] at h
  cases h

/-- Only zero has a zero in front. -/
lemma head?_decimal_ne_zero {n : Nat} (h : 0 < n) : (decimal n).head? ≠ some '0' := by
  induction n using Nat.strongRecOn with
  | ind n ih =>
    rw [decimal]
    rcases Nat.lt_or_ge n 10 with hlt | hge
    · rw [Nat.toDigits_of_lt_base hlt]
      have hchar : ∀ d < 10, 0 < d → d.digitChar ≠ '0' := by decide
      simpa using hchar n hlt h
    · have hfront := ih (n / 10) (by omega) (by omega)
      rw [Nat.toDigits_of_base_le (by decide) hge, List.head?_append]
      rw [decimal] at hfront
      cases hdigits : (Nat.toDigits 10 (n / 10)).head? with
      | none => exact absurd (List.head?_eq_none_iff.mp hdigits) Nat.toDigits_ne_nil
      | some c => simpa [hdigits] using hfront

end Metastore.Text
