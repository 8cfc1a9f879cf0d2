import Metastore.Json.Reader
import Metastore.Json.Writer
import Metastore.Proofs.Text.Digits

/-!
# Reading integers back

An integer is read as itself where it is followed by nothing that would go on with the number.
-/

namespace Metastore.Json

/-- Nothing in front goes on with a number. -/
def Stops (rest : List Char) : Prop :=
  ∀ c more, rest = c :: more → Text.isDigit c = false ∧ c ≠ '.' ∧ c ≠ 'e' ∧ c ≠ 'E'

lemma stops_nil : Stops [] := by
  intro c more h
  cases h

lemma stops_cons {c : Char} (hdigit : Text.isDigit c = false) (hpoint : c ≠ '.') (he : c ≠ 'e')
    (hE : c ≠ 'E') (more : List Char) : Stops (c :: more) := by
  rintro c' more' ⟨⟩
  exact ⟨hdigit, hpoint, he, hE⟩

lemma takeDigits_append {digits rest : List Char} (hdigits : ∀ c ∈ digits, Text.isDigit c = true)
    (hrest : Stops rest) : takeDigits (digits ++ rest) = (digits, rest) := by
  rw [takeDigits, List.span_eq_takeWhile_dropWhile, List.takeWhile_append_of_pos hdigits,
    List.dropWhile_append_of_pos hdigits]
  cases rest with
  | nil => simp
  | cons c more =>
    have hc : Text.isDigit c = false := (hrest c more rfl).1
    simp [hc]

lemma readFraction_of_stops {rest : List Char} (h : Stops rest) : readFraction rest = none := by
  cases rest with
  | nil => rfl
  | cons c more =>
    obtain ⟨-, hpoint, -, -⟩ := h c more rfl
    simp only [readFraction]
    split
    · next heq => exact absurd (List.cons.inj heq).1 hpoint
    · rfl

lemma readExponent_of_stops {rest : List Char} (h : Stops rest) : readExponent rest = none := by
  cases rest with
  | nil => rfl
  | cons c more =>
    obtain ⟨-, -, he, hE⟩ := h c more rfl
    simp only [readExponent, he, hE, decide_false, Bool.or_self, Bool.false_eq_true, if_false]

/-- A number without fraction and exponent is an integer. -/
lemma readUnsigned_eq (negative : Bool) (cs : List Char) {whole rest : List Char} {n : Nat}
    (hread : Text.readDigits 10 whole = some n) (hrest : Stops rest) :
    whole = ['0'] ∧ cs = '0' :: rest ∨ cs.head? ≠ some '0' ∧ takeDigits cs = (whole, rest) →
      readUnsigned negative cs = some (.int (if negative then -(n : Int) else n), rest) := by
  intro hwhole
  rw [readUnsigned.eq_def]
  split
  next found after heq =>
    have hfound : (whole, rest) = (found, after) := by
      rw [← heq]
      rcases hwhole with ⟨rfl, rfl⟩ | ⟨hhead, htake⟩
      · rfl
      · split
        · simp at hhead
        · exact htake.symm
    cases hfound
    simp only [hread, readFraction_of_stops hrest, readExponent_of_stops hrest]
    rfl

/-- The digits of a natural number are taken as a whole: only zero starts with a zero. -/
lemma readUnsigned_decimal (negative : Bool) (n : Nat) {rest : List Char} (hrest : Stops rest) :
    readUnsigned negative (Text.decimal n ++ rest) =
      some (.int (if negative then -(n : Int) else n), rest) := by
  have hread : Text.readDigits 10 (Text.decimal n) = some n :=
    Text.readDigits_toDigits (by decide) (by decide) n
  refine readUnsigned_eq negative _ hread hrest ?_
  rcases Nat.eq_zero_or_pos n with rfl | hpos
  · exact .inl ⟨rfl, rfl⟩
  · refine .inr ⟨?_, takeDigits_append (fun c hc => Text.isDigit_of_mem_decimal hc) hrest⟩
    have hhead := Text.head?_decimal_ne_zero hpos
    rw [List.head?_append]
    cases hdigits : (Text.decimal n).head? with
    | none => exact absurd (List.head?_eq_none_iff.mp hdigits) (by simp [Text.decimal])
    | some c => rwa [hdigits] at hhead

/-- What starts with a digit is read as a number. -/
lemma readAtom_of_digit {c : Char} (h : Text.isDigit c = true) (rest : List Char) :
    readAtom (c :: rest) = readUnsigned false (c :: rest) := by
  rw [readAtom.eq_def]
  split
  case h_8 => rfl
  all_goals
    next heq =>
      obtain ⟨rfl, -⟩ := List.cons.inj heq
      exact absurd h (by decide)

lemma readAtom_of_minus {c : Char} (h : Text.isDigit c = true) (rest : List Char) :
    readAtom ('-' :: c :: rest) = readUnsigned true (c :: rest) := by
  rw [readAtom.eq_def]
  split
  case h_6 heq =>
    obtain ⟨rfl, -⟩ := List.cons.inj (List.cons.inj heq).2
    exact absurd h (by decide)
  case h_7 heq =>
    obtain ⟨-, rfl⟩ := List.cons.inj heq
    rfl
  case h_8 hminus => exact absurd rfl (hminus (c :: rest))
  all_goals
    next heq => exact absurd (List.cons.inj heq).1 (by decide)

/-- A natural number has a first digit. -/
lemma decimal_eq_cons (n : Nat) :
    ∃ c digits, Text.decimal n = c :: digits ∧ Text.isDigit c = true := by
  cases h : Text.decimal n with
  | nil => exact absurd h (by simp [Text.decimal])
  | cons c digits => exact ⟨c, digits, rfl, Text.isDigit_of_mem_decimal (h ▸ List.mem_cons_self)⟩

/-- An integer is read as itself. -/
lemma readAtom_integer (n : Int) {rest : List Char} (hrest : Stops rest) :
    readAtom (Text.integer n ++ rest) = some (.int n, rest) := by
  obtain ⟨c, digits, hdecimal, hc⟩ := decimal_eq_cons n.natAbs
  rw [Text.integer]
  split
  · next hneg =>
    have hread := readUnsigned_decimal true n.natAbs hrest
    rw [hdecimal] at hread ⊢
    rw [List.cons_append, List.cons_append, readAtom_of_minus hc, ← List.cons_append, hread]
    simp only [if_true, show -(n.natAbs : Int) = n by omega]
  · next hpos =>
    have hread := readUnsigned_decimal false n.natAbs hrest
    rw [hdecimal] at hread ⊢
    rw [List.cons_append, readAtom_of_digit hc, ← List.cons_append, hread]
    simp only [Bool.false_eq_true, if_false, show (n.natAbs : Int) = n by omega]

end Metastore.Json
