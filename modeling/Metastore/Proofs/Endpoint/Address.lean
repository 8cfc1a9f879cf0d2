import Metastore.Proofs.Endpoint.Host
import Metastore.Proofs.Text.Ascii

/-!
# Addresses in lower case

A host is put in lower case up to a zone. What may stand between brackets may still stand there in lower
case (`Url.isBracketed_lowered`): each test for a part of an address answers the same for both forms.
-/

namespace Metastore

namespace Text

variable {isSep : Char → Bool} {f : Char → Char}

/-- A change of characters that keeps separators changes each piece by itself. -/
lemma splitBy_map (h : ∀ c, isSep (f c) = isSep c) (cs : List Char) :
    splitBy isSep (cs.map f) = (splitBy isSep cs).map (List.map f) := by
  induction cs with
  | nil => rfl
  | cons c rest ih =>
    rw [List.map_cons, splitBy, splitBy, h, ih]
    by_cases hc : isSep c = true
    · simp [hc]
    · simp only [hc]
      cases splitBy isSep rest <;> rfl

/-- The first piece begins with the first character, unless that is a separator. -/
lemma splitBy_cons (isSep : Char → Bool) {c : Char} (h : isSep c = false) (rest : List Char) :
    ∃ piece more, splitBy isSep (c :: rest) = (c :: piece) :: more := by
  rw [splitBy, h]
  cases splitBy isSep rest with
  | nil => exact ⟨_, _, rfl⟩
  | cons piece more => exact ⟨_, _, rfl⟩

/-- A character that is no letter is found in lower case where it was. -/
lemma beq_toLower {d : Char} (hd : isLetter d = false) (c : Char) : (c.toLower == d) = (c == d) := by
  rw [Bool.eq_iff_iff, beq_iff_eq, beq_iff_eq, toLower_eq_iff hd]

lemma contains_map_toLower {d : Char} (hd : isLetter d = false) (cs : List Char) :
    (cs.map Char.toLower).contains d = cs.contains d := by
  rw [Bool.eq_iff_iff, List.contains_iff_mem, List.contains_iff_mem, List.mem_map]
  constructor
  · rintro ⟨c, hc, hlower⟩
    rwa [← (toLower_eq_iff hd).mp hlower]
  · exact fun h => ⟨d, h, (toLower_eq_iff hd).mpr rfl⟩

lemma splitBy_map_toLower {d : Char} (hd : isLetter d = false) (cs : List Char) :
    splitBy (· == d) (cs.map Char.toLower) = (splitBy (· == d) cs).map (List.map Char.toLower) :=
  splitBy_map (beq_toLower hd) cs

/-- Decimal digits are read alike, and letters are none. -/
lemma digitValue?_toLower (c : Char) : digitValue? 10 c.toLower = digitValue? 10 c := by
  by_cases h : c.isUpper = true
  · -- a capital letter is worth ten or more, in either case
    obtain ⟨hlow, hhigh⟩ := isUpper_iff.mp h
    have hletters : ∀ n < 91, 65 ≤ n → digitValue? 10 (Char.ofNat n).toLower =
        digitValue? 10 (Char.ofNat n) := by decide
    simpa using hletters c.toNat (by omega) hlow
  · rw [Char.toLower_eq_of_not_isUpper h]

lemma readDigits_map_toLower (cs : List Char) :
    readDigits 10 (cs.map Char.toLower) = readDigits 10 cs := by
  have hfrom : ∀ acc, readDigitsFrom 10 acc (cs.map Char.toLower) = readDigitsFrom 10 acc cs := by
    induction cs with
    | nil => simp
    | cons c rest ih => simp [readDigitsFrom, digitValue?_toLower, ih]
  simp [readDigits, hfrom]

end Text

namespace Endpoint.Address

open Text (isHexDigit beq_toLower)

variable {cs : List Char} {parts side : List (List Char)}

/-! ### Parts of addresses -/

lemma isOctet_lower (cs : List Char) : isOctet (cs.map Char.toLower) = isOctet cs := by
  have hall : (cs.map Char.toLower).all Text.isDigit = cs.all Text.isDigit := by
    simp [List.all_map, Function.comp_def, Text.isDigit_toLower]
  have hzero : (cs.map Char.toLower == ['0']) = (cs == ['0']) := by
    rw [Bool.eq_iff_iff, beq_iff_eq, beq_iff_eq, List.map_eq_singleton_iff]
    constructor
    · rintro ⟨c, rfl, hc⟩
      rw [(Text.toLower_eq_iff rfl).mp hc]
    · rintro rfl
      exact ⟨'0', rfl, rfl⟩
  have hhead : ((cs.map Char.toLower).head? != some '0') = (cs.head? != some '0') := by
    cases cs with
    | nil => rfl
    | cons c rest =>
      rw [List.map_cons, List.head?_cons, List.head?_cons, bne, bne, Option.some_beq_some,
        Option.some_beq_some, beq_toLower rfl]
  rw [isOctet, isOctet, hall, hzero, hhead, Text.readDigits_map_toLower, List.length_map,
    List.isEmpty_map]

lemma isVersion4_lower (cs : List Char) : isVersion4 (cs.map Char.toLower) = isVersion4 cs := by
  simp [isVersion4, Text.splitBy_map_toLower (d := '.') rfl, List.all_map, Function.comp_def,
    isOctet_lower]

lemma isGroup_lower (cs : List Char) : isGroup (cs.map Char.toLower) = isGroup cs := by
  simp [isGroup, List.all_map, Function.comp_def, Text.isHexDigit_toLower]

lemma pieces?_lower (cs : List Char) :
    pieces? (cs.map Char.toLower) = (pieces? cs).map (List.map (List.map Char.toLower)) := by
  have hlast (parts : List (List Char)) : (parts.map (List.map Char.toLower)).getLast?.getD [] =
      (parts.getLast?.getD []).map Char.toLower := by
    rw [List.getLast?_map]
    cases parts.getLast? <;> rfl
  rw [pieces?, pieces?, Text.splitBy_map_toLower (d := ':') rfl]
  generalize Text.splitBy (· == ':') cs = parts
  simp only [List.length_map, hlast, Text.contains_map_toLower (d := '.') rfl, isVersion4_lower]
  split
  · rfl
  · split
    · split
      · simp [List.map_dropLast]
      · rfl
    · rfl

lemma innerGaps_lower (parts : List (List Char)) :
    innerGaps (parts.map (List.map Char.toLower)) = innerGaps parts := by
  rw [innerGaps, innerGaps, ← List.map_drop, ← List.map_dropLast, List.countP_map]
  simp [Function.comp_def]

lemma aroundGap_lower (parts : List (List Char)) :
    aroundGap (parts.map (List.map Char.toLower)) =
      ((aroundGap parts).1.map (List.map Char.toLower),
        (aroundGap parts).2.map (List.map Char.toLower)) := by
  have hempty : (fun piece : List Char => !piece.isEmpty) ∘ List.map Char.toLower =
      fun piece => !piece.isEmpty := by
    funext piece
    simp
  simp only [aroundGap, ← List.map_drop, ← List.map_take, List.takeWhile_map, List.dropWhile_map,
    hempty, List.map_append]

lemma sideGroups?_lower (side : List (List Char)) :
    sideGroups? (side.map (List.map Char.toLower)) = sideGroups? side := by
  have hempty : (side.map (List.map Char.toLower) == [[]]) = (side == [[]]) := by
    rw [Bool.eq_iff_iff, beq_iff_eq, beq_iff_eq, List.map_eq_singleton_iff]
    simp
  simp [sideGroups?, hempty, List.all_map, Function.comp_def, isGroup_lower]

lemma isGroups_lower (cs : List Char) : isGroups (cs.map Char.toLower) = isGroups cs := by
  rw [isGroups, isGroups, pieces?_lower]
  cases pieces? cs with
  | none => rfl
  | some parts =>
    simp only [Option.map_some, innerGaps_lower, aroundGap_lower, sideGroups?_lower, List.length_map,
      List.all_map, Function.comp_def, isGroup_lower]

/-! ### Where an address begins -/

/-- The first piece of an address is empty or a group. -/
lemma isGroup_of_isGroups (h : isGroups cs = true) :
    ∃ parts, pieces? cs = some parts ∧ ∀ piece ∈ parts.head?, piece = [] ∨ isGroup piece = true := by
  rw [isGroups] at h
  cases hpieces : pieces? cs with
  | none => simp [hpieces] at h
  | some parts =>
    refine ⟨parts, rfl, ?_⟩
    intro piece hpiece
    obtain ⟨rest, rfl⟩ := List.head?_eq_some_iff.mp hpiece
    rw [hpieces] at h
    dsimp only at h
    split at h
    · -- no gap: every piece is a group
      right
      simp only [Bool.and_eq_true, List.all_cons] at h
      exact h.2.1
    · -- one gap: the piece is in front of it
      split at h
      · next m n hbefore hafter =>
        rw [sideGroups?] at hbefore
        split at hbefore
        · next hside =>
          left
          simp only [aroundGap, beq_iff_eq] at hside
          simpa using (List.cons.inj hside).1
        · split at hbefore
          · next hside =>
            right
            simp only [aroundGap, List.take_succ_cons, List.take_zero, List.cons_append,
              List.all_cons, Bool.and_eq_true] at hside
            exact hside.1
          · cases hbefore
      · cases h
    · cases h

/-- An address begins with a colon or a hexadecimal digit. -/
lemma eq_colon_or_isHexDigit {c : Char} {rest : List Char} (h : isGroups (c :: rest) = true) :
    c = ':' ∨ isHexDigit c = true := by
  by_cases hc : c = ':'
  · exact .inl hc
  · right
    obtain ⟨parts, hpieces, hfirst⟩ := isGroup_of_isGroups h
    obtain ⟨piece, more, hsplit⟩ := Text.splitBy_cons (· == ':') (by simpa using hc) rest
    have hhead : parts.head? = some (c :: piece) := by
      rw [pieces?, hsplit] at hpieces
      dsimp only at hpieces
      split at hpieces
      · cases hpieces
      · next hlength =>
        split at hpieces
        · split at hpieces
          · obtain rfl := Option.some.inj hpieces
            cases more with
            | nil => simp at hlength
            | cons next more => rfl
          · cases hpieces
        · obtain rfl := Option.some.inj hpieces
          rfl
    rcases hfirst _ hhead with hnil | hgroup
    · cases hnil
    · simp only [isGroup, List.all_cons, Bool.and_eq_true] at hgroup
      exact hgroup.2.1

end Endpoint.Address

/-! ### Hosts in lower case -/

namespace Url

open Endpoint.Address (isBracketed isVersion6 isLaterVersion isGroups_lower eq_colon_or_isHexDigit)
open Text (IsAscii)

variable {cs : List Char}

/-- In ASCII, what stands before the first percent sign is put in lower case character by character. -/
lemma lowered_append {front back : List Char} (hfront : '%' ∉ front) (h : IsAscii (front ++ back)) :
    lowered (front ++ back) = front.map Char.toLower ++ lowered back := by
  have hback : IsAscii (back.takeWhile (· != '%')) :=
    (Text.isAscii_append.mp h).2.mono (List.takeWhile_subset _)
  rw [lowered, List.takeWhile_append_of_pos (Text.bne_of_not_mem hfront),
    List.dropWhile_append_of_pos (Text.bne_of_not_mem hfront), lowered,
    Text.lowerAfter_of_isAscii (Text.isAscii_append.mpr ⟨(Text.isAscii_append.mp h).1, hback⟩),
    Text.lowerAfter_of_isAscii hback, List.map_append, List.append_assoc]

/-- A host has a zone, which stays as it is, or is put in lower case altogether. -/
lemma lowered_cases (h : IsAscii cs) :
    (∃ front zone, '%' ∉ front ∧ cs = front ++ '%' :: zone ∧
        lowered cs = front.map Char.toLower ++ '%' :: zone) ∨
      '%' ∉ cs ∧ lowered cs = cs.map Char.toLower := by
  by_cases hzone : '%' ∈ cs
  · obtain ⟨front, zone, rfl, hfront⟩ := List.eq_append_cons_of_mem hzone
    refine .inl ⟨front, zone, hfront, rfl, ?_⟩
    rw [lowered_append hfront h]
    simp [lowered, Text.lowerAfter]
  · refine .inr ⟨hzone, ?_⟩
    have hlowered : lowered (cs ++ []) = cs.map Char.toLower ++ lowered [] :=
      lowered_append hzone (by simpa using h)
    simpa [lowered, Text.lowerAfter] using hlowered

lemma not_mem_map_toLower {c : Char} (hc : Text.isLetter c = false) {front : List Char}
    (h : c ∉ front) : c ∉ front.map Char.toLower := by
  rw [← List.contains_iff_mem, Text.contains_map_toLower hc, List.contains_iff_mem]
  exact h

lemma cutAt_lowered (h : IsAscii cs) :
    Text.cutAt '%' (lowered cs) = ((Text.cutAt '%' cs).1.map Char.toLower, (Text.cutAt '%' cs).2) := by
  rcases lowered_cases h with ⟨front, zone, hfront, rfl, hlowered⟩ | ⟨hzone, hlowered⟩
  · rw [hlowered, Text.cutAt_append_cons (not_mem_map_toLower rfl hfront),
      Text.cutAt_append_cons hfront]
  · rw [hlowered, Text.cutAt_of_not_mem (not_mem_map_toLower rfl hzone), Text.cutAt_of_not_mem hzone]

/-- A character that is no letter is in the host in lower case if it was in it. -/
lemma mem_lowered_iff (h : IsAscii cs) {c : Char} (hc : Text.isLetter c = false) :
    c ∈ lowered cs ↔ c ∈ cs := by
  have hmap (front : List Char) : c ∈ front.map Char.toLower ↔ c ∈ front := by
    rw [← List.contains_iff_mem, Text.contains_map_toLower hc, List.contains_iff_mem]
  rcases lowered_cases h with ⟨front, zone, -, rfl, hlowered⟩ | ⟨-, hlowered⟩
  · simp only [hlowered, List.mem_append, hmap]
  · rw [hlowered, hmap]

lemma isVersion6_lowered (h : IsAscii cs) : isVersion6 (lowered cs) = isVersion6 cs := by
  have hslash (front : List Char) : (front.map Char.toLower).contains '/' = front.contains '/' :=
    Text.contains_map_toLower rfl front
  have hslashes : (lowered cs).contains '/' = cs.contains '/' := by
    rw [Bool.eq_iff_iff, List.contains_iff_mem, List.contains_iff_mem, mem_lowered_iff h rfl]
  rw [isVersion6, isVersion6, cutAt_lowered h]
  rcases Text.cutAt '%' cs with ⟨address, zone | zone⟩
  · simp only [hslash, isGroups_lower]
  · simp only [hslashes, isGroups_lower]

/-- An address of version 6 is not taken for one of a later version. -/
lemma head?_ne_of_isVersion6 (h : isVersion6 cs = true) : cs.head? ≠ some 'v' := by
  intro hhead
  obtain ⟨rest, rfl⟩ := List.head?_eq_some_iff.mp hhead
  have hgroups : Endpoint.Address.isGroups (Text.cutAt '%' ('v' :: rest)).1 = true := by
    rw [isVersion6] at h
    split at h
    · next hcut =>
      simp only [Bool.and_eq_true] at h
      exact hcut ▸ h.2
    · next hcut =>
      simp only [Bool.and_eq_true] at h
      exact hcut ▸ h.2
  rw [Text.cutAt, List.takeWhile_cons_of_pos (by decide)] at hgroups
  rcases eq_colon_or_isHexDigit hgroups with hcolon | hdigit
  · exact absurd hcolon (by decide)
  · exact absurd hdigit (by decide)

/-- An address of a later version is a `v`, digits, a point, and something behind it. -/
lemma isLaterVersion_iff : isLaterVersion cs = true ↔
    ∃ digits more, cs = 'v' :: (digits ++ '.' :: more) ∧ digits ≠ [] ∧ more ≠ [] ∧
      ∀ c ∈ digits, Text.isHexDigit c = true := by
  constructor
  · intro h
    unfold isLaterVersion at h
    split at h
    · next rest =>
      dsimp only at h
      split at h
      · next d more hdrop =>
        refine ⟨rest.takeWhile Text.isHexDigit, d :: more, ?_, by simpa using h, by simp,
          fun c hc => List.mem_takeWhile_imp hc⟩
        rw [← hdrop, List.takeWhile_append_dropWhile]
      · cases h
    · cases h
  · rintro ⟨digits, more, rfl, hdigits, hmore, hhex⟩
    obtain ⟨d, more, rfl⟩ := List.exists_cons_of_ne_nil hmore
    have hpoint : Text.isHexDigit '.' = false := rfl
    simp [isLaterVersion, List.takeWhile_append_of_pos hhex, List.dropWhile_append_of_pos hhex, hpoint,
      hdigits]

lemma isLaterVersion_lowered (hascii : IsAscii cs) (h : isLaterVersion cs = true) :
    isLaterVersion (lowered cs) = true := by
  obtain ⟨digits, more, rfl, hdigits, hmore, hhex⟩ := isLaterVersion_iff.mp h
  have hfront : '%' ∉ 'v' :: (digits ++ ['.']) := by
    have hzone : '%' ∉ digits := fun hmem => absurd (hhex _ hmem) (by decide)
    simp [hzone]
  have hcs : 'v' :: (digits ++ '.' :: more) = 'v' :: (digits ++ ['.']) ++ more := by simp
  have hascii' : IsAscii more := hascii.mono (by intro c hc; simp [hc])
  rw [hcs] at hascii ⊢
  rw [lowered_append hfront hascii]
  refine isLaterVersion_iff.mpr ⟨digits.map Char.toLower, lowered more, ?_, ?_, ?_, ?_⟩
  · have hv : 'v'.toLower = 'v' := by decide
    have hpoint : '.'.toLower = '.' := by decide
    simp [hv, hpoint]
  · simpa using hdigits
  · rcases lowered_cases hascii' with ⟨front, zone, -, -, hlowered⟩ | ⟨-, hlowered⟩
    · simp [hlowered]
    · simpa [hlowered] using hmore
  · intro c hc
    obtain ⟨d, hd, rfl⟩ := List.mem_map.mp hc
    rw [Text.isHexDigit_toLower]
    exact hhex d hd

/-- What may stand between brackets may stand there in lower case. -/
lemma isBracketed_lowered (hascii : IsAscii cs) (h : isBracketed cs = true) :
    isBracketed (lowered cs) = true := by
  by_cases hlater : cs.head? = some 'v'
  · rw [isBracketed, if_pos hlater] at h
    have hlowered := isLaterVersion_lowered hascii h
    obtain ⟨digits, more, heq, -⟩ := isLaterVersion_iff.mp hlowered
    rw [isBracketed, if_pos (by simp [heq]), hlowered]
  · rw [isBracketed, if_neg hlater] at h
    have hlowered : isVersion6 (lowered cs) = true := by rw [isVersion6_lowered hascii, h]
    rw [isBracketed, if_neg (head?_ne_of_isVersion6 hlowered), hlowered]

end Url
end Metastore
