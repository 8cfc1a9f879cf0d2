import Metastore.Proofs.Text.Ascii
import Metastore.Proofs.Text.Digits
import Metastore.Value.Display

/-!
# The word for yes

Only the truth value and texts are shown as `true` in some letter case: what any other value is shown
as begins with a character that does not become a `t` in lower case (`Value.lower_display`).
-/

namespace Metastore

namespace Text

/-- Whether a text begins with a character of ASCII that is no `t`, in either case. -/
def opensApart : List Char → Bool
  | [] => false
  | c :: _ => c.toNat < 128 && c.toLower != 't'

lemma opensApart_append {front : List Char} (h : opensApart front = true) (back : List Char) :
    opensApart (front ++ back) = true := by
  cases front with
  | nil => cases h
  | cons c rest => exact h

/-- A text that opens apart does not become the word. -/
lemma lower_ne_of_opensApart {cs : List Char} (h : opensApart cs = true) :
    lower (String.ofList cs) ≠ "true" := by
  cases cs with
  | nil => cases h
  | cons c rest =>
    simp only [opensApart, Bool.and_eq_true, decide_eq_true_eq, bne_iff_ne] at h
    obtain ⟨hascii, hne⟩ := h
    have hsigma : c ≠ 'Σ' := by
      rintro rfl
      exact absurd hascii (by decide)
    intro hlower
    have hcs : lowerAfter [] (c :: rest) = ['t', 'r', 'u', 'e'] := by
      rw [lower, String.toList_ofList] at hlower
      simpa using congrArg String.toList hlower
    rw [lowerAfter, if_neg hsigma, lowerChar, if_pos hascii] at hcs
    exact hne (List.cons.inj hcs).1

lemma opensApart_of_isDigit {c : Char} (h : isDigit c = true) (rest : List Char) :
    opensApart (c :: rest) = true := by
  have hrange := isDigit_iff.mp h
  simp only [opensApart, Bool.and_eq_true, decide_eq_true_eq, bne_iff_ne]
  constructor
  · omega
  · intro hlower
    have hdigit := isDigit_toLower c
    rw [hlower, h] at hdigit
    exact absurd hdigit (by decide)

lemma opensApart_decimal (n : Nat) : opensApart (decimal n) = true := by
  cases hdigits : decimal n with
  | nil => exact absurd hdigits Nat.toDigits_ne_nil
  | cons c rest =>
    exact opensApart_of_isDigit (isDigit_of_mem_decimal (hdigits ▸ List.mem_cons_self)) rest

lemma opensApart_padZeros (width n : Nat) : opensApart (padZeros width (decimal n)) = true := by
  rw [padZeros]
  cases width - (decimal n).length with
  | zero => exact opensApart_decimal n
  | succ count => rfl

lemma opensApart_integer (n : Int) : opensApart (integer n) = true := by
  rw [integer]
  split
  · rfl
  · exact opensApart_decimal n.natAbs

end Text

open Text (opensApart opensApart_append)

namespace Decimal

lemma isDigit_of_mem_dropLastZeros {n : Nat} {c : Char}
    (h : c ∈ dropLastZeros (Text.decimal n)) : Text.isDigit c = true := by
  rw [dropLastZeros, List.mem_reverse] at h
  have hmem := (List.dropWhile_suffix _).subset h
  exact Text.isDigit_of_mem_decimal (List.mem_reverse.mp hmem)

variable {digits : List Char}

lemma opensApart_positional (hdigits : ∀ c ∈ digits, Text.isDigit c = true) (point : Int) :
    opensApart (positional digits point) = true := by
  rw [positional]
  split
  · rfl
  · next hpoint =>
    obtain ⟨count, hcount⟩ : ∃ count, point.toNat = count + 1 := ⟨point.toNat - 1, by omega⟩
    cases digits with
    | nil => simp [hcount, List.replicate_succ, opensApart, Char.toLower]
    | cons c rest =>
      simp only [hcount, List.take_succ_cons, List.cons_append]
      exact Text.opensApart_of_isDigit (hdigits c List.mem_cons_self) _

lemma opensApart_scientific (hdigits : ∀ c ∈ digits, Text.isDigit c = true) (layout : Layout)
    (e : Int) : opensApart (scientific layout digits e) = true := by
  rw [scientific]
  cases digits with
  | nil => rfl
  | cons c rest => exact Text.opensApart_of_isDigit (hdigits c List.mem_cons_self) _

lemma lower_render_ne (x : Double) : Text.lower (Layout.plain.render x) ≠ "true" := by
  have hsign {body : List Char} (hbody : opensApart body = true) :
      Text.lower (String.ofList ((if x.negative then ['-'] else []) ++ body)) ≠ "true" := by
    apply Text.lower_ne_of_opensApart
    cases x.negative with
    | true => rfl
    | false => exact hbody
  have hdigits := fun c (hc : c ∈ dropLastZeros (Text.decimal (shortest x).digits)) =>
    isDigit_of_mem_dropLastZeros hc
  rw [Layout.render]
  split
  · decide
  split
  · exact hsign rfl
  split
  · exact hsign rfl
  apply hsign
  split
  · exact opensApart_positional hdigits _
  · exact opensApart_scientific hdigits _ _

end Decimal

lemma Timestamp.opensApart_plain (t : Timestamp) : opensApart t.plain.toList = true := by
  rw [plain, render, String.toList_ofList, dateText]
  simp only [List.append_assoc]
  exact opensApart_append (Text.opensApart_padZeros 4 t.year) _

lemma Foreign.opensApart_text (f : Foreign) : opensApart f.text.toList = true := by
  cases f with
  | bytes content =>
    rw [text, String.toList_append]
    rfl
  | set items =>
    rw [text]
    split
    · decide
    · rw [String.append_assoc, String.toList_append]
      rfl

/-- Nothing but the truth value and texts is shown as the word, in any letter case. -/
lemma Value.lower_display {v : Value} (h : Text.lower v.display = "true") :
    v = .bool true ∨ ∃ s, v = .text s := by
  have hapart {s : String} (hs : opensApart s.toList = true) : Text.lower s ≠ "true" := by
    have hne := Text.lower_ne_of_opensApart hs
    rwa [String.ofList_toList] at hne
  cases v with
  | text s => exact .inr ⟨s, rfl⟩
  | bool b =>
    cases b with
    | true => exact .inl rfl
    | false => exact absurd h (by decide)
  | null => exact absurd h (by decide)
  | int n =>
    refine absurd h (Text.lower_ne_of_opensApart ?_)
    exact Text.opensApart_integer n
  | float x => exact absurd h (Decimal.lower_render_ne x)
  | date t => exact absurd h (hapart t.opensApart_plain)
  | foreign f => exact absurd h (hapart f.opensApart_text)
  | list items =>
    refine absurd h (hapart ?_)
    show opensApart (notationBy Text.quote (.list items)).toList = true
    rw [notationBy, String.append_assoc, String.toList_append]
    rfl
  | entry key value =>
    refine absurd h (hapart ?_)
    show opensApart (notationBy Text.quote (.entry key value)).toList = true
    rw [notationBy]
    simp only [String.append_assoc, String.toList_append]
    rfl
  | map entries =>
    refine absurd h (hapart ?_)
    show opensApart (notationBy Text.quote (.map entries)).toList = true
    rw [notationBy, String.append_assoc, String.toList_append]
    rfl

end Metastore
