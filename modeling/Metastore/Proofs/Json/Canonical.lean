import Metastore.Proofs.Json.RoundTrip
import Metastore.Proofs.Text.Ascii
import Metastore.Proofs.Value.Reordered

/-!
# Canonical texts

The canonical text of plain data is pure ASCII, because it is written so, and it is the same for two
values exactly if they differ only in the order of entries, because their entries are sorted
(`encode_eq_iff`).
-/

namespace Metastore

open Text (IsAscii)

namespace Json

lemma isAscii_escapeUnit (n : Nat) : IsAscii (escapeUnit n) := by
  have hdigits : IsAscii (Text.padZeros 4 (Text.hexadecimal n)) :=
    Text.isAscii_padZeros 4 (Text.isAscii_toDigits (by decide) (by decide) n)
  simp [escapeUnit, hdigits]

lemma isAscii_escapeUnits (c : Char) : IsAscii (escapeUnits c) := by
  rw [escapeUnits]
  split
  · exact isAscii_escapeUnit _
  · rw [Text.isAscii_append]
    exact ⟨isAscii_escapeUnit _, isAscii_escapeUnit _⟩

lemma isAscii_writeChar (c : Char) : IsAscii (writeChar true c) := by
  rw [writeChar]
  split_ifs with hquote hslash hline hreturn htab hfeed hback hcontrol hlarge
  · simp
  · simp
  · simp
  · simp
  · simp
  · simp
  · simp
  · exact isAscii_escapeUnit c.toNat
  · exact isAscii_escapeUnits c
  · -- what is not escaped is a printable ASCII character
    simp only [Bool.true_and, decide_eq_true_eq, Nat.not_lt] at hlarge
    rw [Text.isAscii_cons]
    exact ⟨by omega, Text.isAscii_nil⟩

lemma isAscii_writeText (s : String) : IsAscii (writeText true s) := by
  have hbody : IsAscii (s.toList.flatMap (writeChar true)) := by
    intro c hc
    obtain ⟨d, -, hmem⟩ := List.mem_flatMap.mp hc
    exact isAscii_writeChar d c hmem
  simp [writeText, hbody]

lemma isAscii_separated {pieces : List (List Char)} (h : ∀ piece ∈ pieces, IsAscii piece) :
    IsAscii (separated pieces) := by
  induction pieces using separated.induct with
  | case1 => exact Text.isAscii_nil
  | case2 piece => exact h piece List.mem_cons_self
  | case3 piece more hmore ih =>
    have hpiece := h piece List.mem_cons_self
    have hrest := ih fun other hother => h other (List.mem_cons_of_mem _ hother)
    rw [separated]
    · simp [hpiece, hrest]
    · exact hmore

/-! ### Texts of plain data -/

variable {style : Style} {v w : Value} {items : List Value} {entries others : Mapping}

lemma write_eq_textOf (style : Style) (hv : v.Plain) : write style v = .ok (style.textOf v) :=
  (roundTrips style hv).1

lemma textOf_list (style : Style) (h : ∀ v ∈ items, v.Plain) :
    style.textOf (.list items) = '[' :: separated (items.map style.textOf) ++ [']'] := by
  apply textOf_of_write
  apply write_list
  intro v hv
  exact roundTrips style (h v hv)

lemma textOf_map (style : Style) (hkeys : ∀ e ∈ entries, ∃ name, e.1 = .text name)
    (h : ∀ e ∈ entries, e.2.Plain) :
    style.textOf (.map entries) =
      '\x7b' :: separated ((style.order entries).map style.entryText) ++ ['\x7d'] := by
  apply textOf_of_write
  apply write_map hkeys
  intro e he
  exact roundTrips style (h e he)

/-- A style that escapes all other characters writes plain data as pure ASCII. -/
lemma isAscii_textOf (hstyle : style.asciiOnly = true) (hv : v.Plain) :
    IsAscii (style.textOf v) := by
  induction hv with
  | null =>
    show IsAscii ['n', 'u', 'l', 'l']
    simp
  | bool b =>
    cases b with
    | false =>
      show IsAscii ['f', 'a', 'l', 's', 'e']
      simp
    | true =>
      show IsAscii ['t', 'r', 'u', 'e']
      simp
  | int n => exact Text.isAscii_integer n
  | text s =>
    have hwrite : write style (.text s) = .ok (writeText true s) := by rw [write, hstyle]
    rw [textOf_of_write hwrite]
    exact isAscii_writeText s
  | @list items hitems ih =>
    have hpieces : ∀ piece ∈ items.map style.textOf, IsAscii piece := by
      intro piece hpiece
      obtain ⟨v, hv, rfl⟩ := List.mem_map.mp hpiece
      exact ih v hv
    rw [textOf_list style hitems]
    simp [isAscii_separated hpieces]
  | @map entries hkeys hvalues hdistinct ih =>
    have hpieces : ∀ piece ∈ (style.order entries).map style.entryText, IsAscii piece := by
      intro piece hpiece
      obtain ⟨e, he, rfl⟩ := List.mem_map.mp hpiece
      have hvalue := ih e ((style.order_perm entries).mem_iff.mp he)
      simp [Style.entryText, hstyle, isAscii_writeText, hvalue]
    rw [textOf_map style hkeys hvalues]
    simp [isAscii_separated hpieces]

/-! ### Texts of reordered data -/

lemma keyName_inj (hkeys : ∀ e ∈ entries, ∃ name, e.1 = .text name)
    (hdistinct : (entries.map (·.1)).Nodup) {e f : Value × Value} (he : e ∈ entries)
    (hf : f ∈ entries) (h : Value.keyName e.1 = Value.keyName f.1) : e = f := by
  obtain ⟨name, hname⟩ := hkeys e he
  obtain ⟨other, hother⟩ := hkeys f hf
  rw [hname, hother] at h
  change name = other at h
  apply List.inj_on_of_nodup_map hdistinct he hf
  rw [hname, hother, h]

lemma pairwise_order (hstyle : style.sortKeys = true) (entries : Mapping) :
    (style.order entries).Pairwise fun a b => Value.keyLe a b = true := by
  rw [Style.order, if_pos hstyle]
  apply List.pairwise_mergeSort
  · intro a b c hab hbc
    rw [Value.keyLe, decide_eq_true_eq] at hab hbc ⊢
    exact String.le_trans hab hbc
  · intro a b
    rw [Value.keyLe, Value.keyLe, Bool.or_eq_true, decide_eq_true_eq, decide_eq_true_eq]
    exact String.le_total (Value.keyName a.1) (Value.keyName b.1)

/-- Entries with different keys are written in one order if they are sorted. -/
lemma order_of_perm (hstyle : style.sortKeys = true) (h : List.Perm entries others)
    (hkeys : ∀ e ∈ entries, ∃ name, e.1 = .text name) (hdistinct : (entries.map (·.1)).Nodup) :
    style.order entries = style.order others := by
  refine List.Perm.eq_of_pairwise ?_ (pairwise_order hstyle entries)
    (pairwise_order hstyle others) ?_
  · intro a b ha hb hab hba
    have ha' : a ∈ entries := (style.order_perm entries).mem_iff.mp ha
    have hb' : b ∈ entries := h.mem_iff.mpr ((style.order_perm others).mem_iff.mp hb)
    rw [Value.keyLe, decide_eq_true_eq] at hab hba
    exact keyName_inj hkeys hdistinct ha' hb' (String.le_antisymm hab hba)
  · exact (style.order_perm entries).trans (h.trans (style.order_perm others).symm)

/-- A mapping whose entries are in order is written as it is, also in a style that sorts them. -/
lemma encode_of_ordered (hv : (Value.map entries).Plain)
    (hordered : entries.Pairwise fun a b => Value.keyLe a b = true) :
    encode style (.map entries) =
      .ok (String.ofList ('\x7b' :: separated (entries.map style.entryText) ++ ['\x7d'])) := by
  have horder : style.order entries = entries := by
    rw [Style.order, List.mergeSort_of_pairwise hordered, ite_self]
  cases hv with
  | map hkeys hvalues hdistinct =>
    rw [encode, write_eq_textOf style (.map hkeys hvalues hdistinct),
      textOf_map style hkeys hvalues, horder]
    rfl

/-- A style that sorts entries writes plain data alike whatever their order. -/
lemma textOf_eq (style : Style) (hstyle : style.sortKeys = true) (h : v.Reordered w) (hv : v.Plain) :
    style.textOf v = style.textOf w := by
  induction h with
  | refl v => rfl
  | trans huv hvw ihuv ihvw => rw [ihuv hv, ihvw (huv.plain hv)]
  | perm hperm =>
    have hothers := (Value.Reordered.perm hperm).plain hv
    cases hv with
    | map hkeys hvalues hdistinct =>
      cases hothers with
      | map hkeys' hvalues' hdistinct' =>
        rw [textOf_map style hkeys hvalues, textOf_map style hkeys' hvalues',
          order_of_perm hstyle hperm hkeys hdistinct]
  | item before after h ih =>
    have hothers := (h.item before after).plain hv
    cases hv with
    | list hitems =>
      cases hothers with
      | list hitems' =>
        have htext := ih (hitems _ (by simp))
        rw [textOf_list style hitems, textOf_list style hitems']
        simp [htext]
  | entry before key after h ih =>
    have hothers := (h.entry before key after).plain hv
    cases hv with
    | map hkeys hvalues hdistinct =>
      cases hothers with
      | map hkeys' hvalues' hdistinct' =>
        have htext := ih (hvalues (key, _) (by simp))
        rw [textOf_map style hkeys hvalues, textOf_map style hkeys' hvalues',
          style.map_entryText_order, style.map_entryText_order]
        simp [Style.entryText, htext]

/-- Plain data have the same text exactly if they differ only in the order of entries. -/
lemma encode_eq_iff (hv : v.Plain) (hw : w.Plain) :
    encode .canonical v = encode .canonical w ↔ v.Reordered w := by
  constructor
  · intro h
    obtain ⟨text, hencode, hdecode⟩ := decode_canonical hv
    obtain ⟨text', hencode', hdecode'⟩ := decode_canonical hw
    rw [hencode, hencode'] at h
    rw [Except.ok.inj h, hdecode'] at hdecode
    have hsorted : w.sorted = v.sorted := Except.ok.inj hdecode
    have hback := (Value.Reordered.sorted hw).symm
    rw [hsorted] at hback
    exact (Value.Reordered.sorted hv).trans hback
  · intro h
    rw [encode, encode, write_eq_textOf .canonical hv, write_eq_textOf .canonical hw,
      textOf_eq .canonical rfl h hv]

end Json
end Metastore
