import Metastore.Json.Reader
import Metastore.Json.Writer
import Metastore.Proofs.Text.Digits

/-!
# Reading strings back

Whatever is written for a character, as it is, as a short escape, or as one or two escaped 16-bit
units, is read as that character (`spells_writeChar`), and so a written text is read as that text
(`readText_writeText`).
-/

namespace Metastore.Json

/-- What is written is read as one character, whatever follows. -/
def Spells (written : List Char) (c : Char) : Prop :=
  ∃ pieces, (∀ more, joinPieces (pieces ++ more) = c :: joinPieces more) ∧
    ∀ rest, readPieces (written ++ rest) =
      (readPieces rest).map fun read => (pieces ++ read.1, read.2)

/-! ### Single characters and short escapes -/

lemma readPieces_char {c : Char} (hquote : c ≠ '"') (hslash : c ≠ '\\') (hcontrol : 32 ≤ c.toNat)
    (rest : List Char) :
    readPieces (c :: rest) = (readPieces rest).map fun read => (.char c :: read.1, read.2) := by
  rw [readPieces.eq_def]
  split
  · next heq => cases heq
  · next heq => exact absurd (List.cons.inj heq).1 hquote
  · next heq => exact absurd (List.cons.inj heq).1 hslash
  · next heq => exact absurd (List.cons.inj heq).1 hslash
  · next heq =>
    obtain ⟨rfl, rfl⟩ := List.cons.inj heq
    simp only [Nat.not_lt.mpr hcontrol, hslash, decide_false, Bool.or_self, Bool.false_eq_true,
      if_false]
    cases readPieces rest <;> rfl

lemma readPieces_escape {letter c : Char} (hletter : letter ≠ 'u')
    (hescape : simpleEscape? letter = some c) (rest : List Char) :
    readPieces ('\\' :: letter :: rest) =
      (readPieces rest).map fun read => (.char c :: read.1, read.2) := by
  rw [readPieces.eq_def]
  split
  · next heq => cases heq
  · next heq => exact absurd (List.cons.inj heq).1 (by decide)
  · next heq => exact absurd (List.cons.inj (List.cons.inj heq).2).1 hletter
  · next heq =>
    obtain ⟨rfl, rfl⟩ := List.cons.inj (List.cons.inj heq).2
    rw [hescape]
    cases readPieces rest <;> rfl
  · next hnone heq =>
    obtain ⟨rfl, rfl⟩ := List.cons.inj heq
    exact absurd rfl (hnone letter rest rfl)

lemma spells_self {c : Char} (hquote : c ≠ '"') (hslash : c ≠ '\\') (hcontrol : 32 ≤ c.toNat) :
    Spells [c] c :=
  ⟨[.char c], fun _ => rfl, readPieces_char hquote hslash hcontrol⟩

lemma spells_escape {letter c : Char} (hletter : letter ≠ 'u')
    (hescape : simpleEscape? letter = some c) :
    Spells ['\\', letter] c :=
  ⟨[.char c], fun _ => rfl, readPieces_escape hletter hescape⟩

/-! ### Escaped units -/

/-- A unit is written with exactly four digits, which are read as it. -/
lemma escapeUnit_eq {n : Nat} (h : n < 0x10000) :
    ∃ a b c d, escapeUnit n = ['\\', 'u', a, b, c, d] ∧ unit? a b c d = some n := by
  have hlength : (Text.padZeros 4 (Text.hexadecimal n)).length = 4 :=
    Text.length_padZeros (by decide) (by decide) (by simpa using h)
  have hread : Text.readDigits 16 (Text.padZeros 4 (Text.hexadecimal n)) = some n :=
    Text.readDigits_padZeros (by decide) (by decide) 4 n
  match hdigits : Text.padZeros 4 (Text.hexadecimal n), hlength with
  | [a, b, c, d], _ =>
    rw [hdigits] at hread
    exact ⟨a, b, c, d, by rw [escapeUnit, hdigits], hread⟩

lemma readPieces_escapeUnit {n : Nat} (h : n < 0x10000) (rest : List Char) :
    readPieces (escapeUnit n ++ rest) =
      (readPieces rest).map fun read => (.unit n :: read.1, read.2) := by
  obtain ⟨a, b, c, d, hwritten, hunit⟩ := escapeUnit_eq h
  rw [hwritten]
  simp only [List.cons_append, List.nil_append, readPieces, hunit]
  cases readPieces rest <;> rfl

/-- A unit that begins no pair is a character of its own. -/
lemma joinPieces_unit {n : Nat} (h : isHigh n = false) (more : List Piece) :
    joinPieces (.unit n :: more) = loneUnit n :: joinPieces more := by
  match more with
  | [] => simp only [joinPieces]
  | .char c :: more => simp only [joinPieces]
  | .unit m :: more => simp only [joinPieces, h, Bool.false_and, Bool.false_eq_true, if_false]

/-- A character is no half of a pair. -/
lemma not_surrogate (c : Char) : isHigh c.toNat = false ∧ isLow c.toNat = false := by
  have hvalid := c.valid
  simp only [UInt32.isValidChar, Nat.isValidChar] at hvalid
  simp only [isHigh, isLow, Bool.and_eq_false_iff, decide_eq_false_iff_not, Char.toNat]
  omega

lemma spells_escapeUnit {c : Char} (h : c.toNat < 0x10000) : Spells (escapeUnit c.toNat) c := by
  obtain ⟨hhigh, hlow⟩ := not_surrogate c
  refine ⟨[.unit c.toNat], fun more => ?_, readPieces_escapeUnit h⟩
  rw [List.singleton_append, joinPieces_unit hhigh, loneUnit, hhigh, hlow]
  simp

/-- The two units of a large character are a pair. -/
lemma joinUnits_split {n : Nat} (hlow : 0x10000 ≤ n) (hhigh : n < 0x110000) :
    isHigh (0xD800 + (n - 0x10000) / 0x400) = true ∧ isLow (0xDC00 + (n - 0x10000) % 0x400) = true ∧
      joinUnits (0xD800 + (n - 0x10000) / 0x400) (0xDC00 + (n - 0x10000) % 0x400) =
        Char.ofNat n := by
  simp only [isHigh, isLow, joinUnits, Bool.and_eq_true, decide_eq_true_eq]
  have hvalue : 0x10000 + (0xD800 + (n - 0x10000) / 0x400 - 0xD800) * 0x400
      + (0xDC00 + (n - 0x10000) % 0x400 - 0xDC00) = n := by omega
  exact ⟨by omega, by omega, by rw [hvalue]⟩

lemma spells_escapeUnits (c : Char) : Spells (escapeUnits c) c := by
  rw [escapeUnits]
  split
  · next h => exact spells_escapeUnit h
  · next h =>
    have hvalid : c.toNat < 0x110000 := by
      have hvalid := c.valid
      simp only [UInt32.isValidChar, Nat.isValidChar] at hvalid
      simp only [Char.toNat]
      omega
    obtain ⟨hhigh, hlow, hjoin⟩ := joinUnits_split (Nat.not_lt.mp h) hvalid
    refine ⟨[.unit (0xD800 + (c.toNat - 0x10000) / 0x400),
        .unit (0xDC00 + (c.toNat - 0x10000) % 0x400)],
      fun more => ?_, fun rest => ?_⟩
    · simp only [List.cons_append, List.nil_append, joinPieces, hhigh, hlow, Bool.and_self, if_true,
        hjoin, Char.ofNat_toNat]
    · rw [List.append_assoc, readPieces_escapeUnit (by omega), readPieces_escapeUnit (by omega)]
      cases readPieces rest <;> rfl

/-! ### Texts -/

lemma spells_writeChar (asciiOnly : Bool) (c : Char) : Spells (writeChar asciiOnly c) c := by
  rw [writeChar]
  split_ifs with h1 h2 h3 h4 h5 h6 h7 h8 h9
  · subst h1
    exact spells_escape (by decide) rfl
  · subst h2
    exact spells_escape (by decide) rfl
  · subst h3
    exact spells_escape (by decide) rfl
  · subst h4
    exact spells_escape (by decide) rfl
  · subst h5
    exact spells_escape (by decide) rfl
  · subst h6
    exact spells_escape (by decide) rfl
  · subst h7
    exact spells_escape (by decide) rfl
  · exact spells_escapeUnit (by omega)
  · exact spells_escapeUnits c
  · exact spells_self h1 h2 (Nat.not_lt.mp h8)

lemma readPieces_flatMap (asciiOnly : Bool) (cs rest : List Char) :
    ∃ pieces, joinPieces pieces = cs ∧
      readPieces (cs.flatMap (writeChar asciiOnly) ++ '"' :: rest) = some (pieces, rest) := by
  induction cs with
  | nil => exact ⟨[], rfl, rfl⟩
  | cons c cs ih =>
    obtain ⟨pieces, hjoin, hread⟩ := ih
    obtain ⟨first, hfirst, hfirstread⟩ := spells_writeChar asciiOnly c
    refine ⟨first ++ pieces, by rw [hfirst, hjoin], ?_⟩
    rw [List.flatMap_cons, List.append_assoc, hfirstread, hread]
    rfl

/-- A text that was written is read up to its closing quote. -/
lemma readText_writeText (asciiOnly : Bool) (s : String) (rest : List Char) :
    ∃ body, writeText asciiOnly s ++ rest = '"' :: body ∧
      readText body = some (s.toList, rest) := by
  obtain ⟨pieces, hjoin, hread⟩ := readPieces_flatMap asciiOnly s.toList rest
  refine ⟨s.toList.flatMap (writeChar asciiOnly) ++ '"' :: rest, by simp [writeText], ?_⟩
  rw [readText, hread, ← hjoin]
  rfl

end Metastore.Json
