import Metastore.Proofs.Json.Numbers
import Metastore.Proofs.Json.Strings
import Metastore.Proofs.Value.Plain

/-!
# Reading what was written

Plain data that are written are read as the same data, with their entries in the order of the keys
where the style sorts them (`decode_encode`). What is written for a value is read up to its end in
front of everything that does not go on with a number, with fuel for each of its characters.
-/

namespace Metastore.Json

/-- What is written is read as a value, whatever follows that goes on with no number. -/
structure Reads (written : List Char) (v : Value) : Prop where
  starts : ∃ c more, written = c :: more ∧ isSpace c = false ∧ c ≠ ']'
  reads : ∀ fuel rest, written.length ≤ fuel → Stops rest →
    readValue fuel (written ++ rest) = some (v, rest)

lemma skipSpace_cons {c : Char} (h : isSpace c = false) (rest : List Char) :
    skipSpace (c :: rest) = c :: rest := by
  rw [skipSpace, List.dropWhile_cons_of_neg (by simp [h])]

lemma skipSpace_space (rest : List Char) : skipSpace (' ' :: rest) = skipSpace rest := by
  rw [skipSpace, List.dropWhile_cons_of_pos (by decide), skipSpace]

namespace Reads

variable {written : List Char} {v : Value}

lemma skipSpace_append (h : Reads written v) (rest : List Char) :
    skipSpace (written ++ rest) = written ++ rest := by
  obtain ⟨c, more, rfl, hspace, -⟩ := h.starts
  exact skipSpace_cons hspace (more ++ rest)

end Reads

/-! ### Words, integers and texts -/

lemma readValue_of_atom {c : Char} (htext : c ≠ '"') (hlist : c ≠ '[') (hmap : c ≠ '\x7b')
    (fuel : Nat) (rest : List Char) :
    readValue (fuel + 1) (c :: rest) = readAtom (c :: rest) := by
  rw [readValue.eq_def]
  dsimp only
  split
  · next heq => exact absurd (List.cons.inj heq).1 htext
  · next heq => exact absurd (List.cons.inj heq).1 hlist
  · next heq => exact absurd (List.cons.inj heq).1 hmap
  · rfl

lemma isPrefixOf?_append (cs rest : List Char) : cs.isPrefixOf? (cs ++ rest) = some rest := by
  induction cs with
  | nil => rfl
  | cons c cs ih => rw [List.cons_append, List.isPrefixOf?, beq_self_eq_true, if_pos rfl, ih]

lemma word?_append (w : String) (v : Value) (rest : List Char) :
    word? w v (w.toList ++ rest) = some (v, rest) := by
  rw [word?, isPrefixOf?_append, Option.map_some]

/-- What starts like no text, list or mapping and is read as a word or a number is read as a
value. -/
lemma reads_of_atom {c : Char} {more : List Char} {v : Value} (hspace : isSpace c = false)
    (hclosing : c ≠ ']') (htext : c ≠ '"') (hlist : c ≠ '[') (hmap : c ≠ '\x7b')
    (hread : ∀ rest, Stops rest → readAtom (c :: more ++ rest) = some (v, rest)) :
    Reads (c :: more) v := by
  refine ⟨⟨c, more, rfl, hspace, hclosing⟩, fun fuel rest hfuel hrest => ?_⟩
  cases fuel with
  | zero => exact absurd hfuel (by simp)
  | succ fuel =>
    rw [List.cons_append, readValue_of_atom htext hlist hmap, ← List.cons_append, hread rest hrest]

lemma reads_null : Reads "null".toList .null :=
  reads_of_atom (by decide) (by decide) (by decide) (by decide) (by decide)
    fun rest _ => word?_append "null" .null rest

lemma reads_bool (b : Bool) : Reads (if b then "true" else "false").toList (.bool b) := by
  cases b with
  | false =>
    exact reads_of_atom (by decide) (by decide) (by decide) (by decide) (by decide)
      fun rest _ => word?_append "false" (.bool false) rest
  | true =>
    exact reads_of_atom (by decide) (by decide) (by decide) (by decide) (by decide)
      fun rest _ => word?_append "true" (.bool true) rest

/-- A digit is no white space and no punctuation. -/
lemma ne_of_isDigit {c d : Char} (hc : Text.isDigit c = true) (hd : Text.isDigit d = false) :
    c ≠ d := by
  rintro rfl
  rw [hc] at hd
  cases hd

lemma isSpace_of_isDigit {c : Char} (h : Text.isDigit c = true) : isSpace c = false := by
  have hspace : ∀ d, d = ' ' ∨ d = '\t' ∨ d = '\n' ∨ d = '\r' → Text.isDigit d = false := by
    rintro d (rfl | rfl | rfl | rfl) <;> decide
  refine Bool.eq_false_iff.mpr fun hc => ?_
  refine ne_of_isDigit h (hspace c ?_) rfl
  simpa [isSpace, or_assoc] using hc

lemma reads_int (n : Int) : Reads (Text.integer n) (.int n) := by
  have hread (rest : List Char) (hrest : Stops rest) := readAtom_integer n hrest
  obtain ⟨c, digits, hdecimal, hc⟩ := decimal_eq_cons n.natAbs
  rw [Text.integer] at hread ⊢
  split at hread
  · next hneg =>
    rw [if_pos hneg]
    exact reads_of_atom (by decide) (by decide) (by decide) (by decide) (by decide) hread
  · next hpos =>
    rw [if_neg hpos, hdecimal]
    rw [hdecimal] at hread
    have hne {d : Char} (hd : Text.isDigit d = false) : c ≠ d := ne_of_isDigit hc hd
    exact reads_of_atom (isSpace_of_isDigit hc) (hne (by decide)) (hne (by decide))
      (hne (by decide)) (hne (by decide)) hread

lemma reads_text (asciiOnly : Bool) (s : String) : Reads (writeText asciiOnly s) (.text s) := by
  refine ⟨⟨'"', s.toList.flatMap (writeChar asciiOnly) ++ ['"'], rfl, by decide, by decide⟩, ?_⟩
  intro fuel rest hfuel _
  obtain ⟨body, hbody, hread⟩ := readText_writeText asciiOnly s rest
  cases fuel with
  | zero => exact absurd hfuel (by simp [writeText])
  | succ fuel =>
    rw [hbody, readValue.eq_def]
    simp only [hread, Option.bind_eq_bind, Option.bind_some, String.ofList_toList]
    rfl

/-! ### Styles -/

namespace Style

variable (style : Style)

/-- The entries of a mapping in the order in which a style writes them. -/
def order (entries : Mapping) : Mapping :=
  if style.sortKeys then entries.mergeSort Value.keyLe else entries

/-- A value as a style shows it: with the entries of every mapping in the order in which they are
written. -/
def shown (v : Value) : Value := if style.sortKeys then v.sorted else v

/-- The text of a value. -/
def textOf (v : Value) : List Char := ((write style v).toOption).getD []

/-- The text of an entry. -/
def entryText (entry : Value × Value) : List Char :=
  writeText style.asciiOnly (Value.keyName entry.1) ++ [':', ' '] ++ style.textOf entry.2

/-- The text of an entry starts with that of its key. -/
lemma entryText_eq_cons (entry : Value × Value) :
    style.entryText entry = '"' :: (style.entryText entry).tail := by
  simp [entryText, writeText]

lemma order_perm (entries : Mapping) : List.Perm (style.order entries) entries := by
  rw [order]
  split
  · exact List.mergeSort_perm entries Value.keyLe
  · exact .refl entries

lemma shown_list (items : List Value) :
    style.shown (.list items) = .list (items.map style.shown) := by
  cases hsort : style.sortKeys with
  | true => simp [shown, hsort, Value.sorted, Value.sortedItems_eq_map]
  | false =>
    have hsame : style.shown = id := by
      funext v
      simp [shown, hsort]
    simp [hsame]

lemma shown_map (entries : Mapping) :
    style.shown (.map entries) =
      .map ((style.order entries).map fun e => (e.1, style.shown e.2)) := by
  cases hsort : style.sortKeys with
  | true => simp [shown, order, hsort, Value.sorted_map]
  | false => simp [shown, order, hsort]

/-- Entries are ordered by their keys, which are kept beside their texts until then. -/
lemma map_entryText_order (entries : Mapping) :
    (style.order entries).map style.entryText =
      (arrange style (entries.map fun e => (Value.keyName e.1, style.entryText e))).map (·.2) := by
  have hsorted : (entries.mergeSort Value.keyLe).map
      (fun e => (Value.keyName e.1, style.entryText e)) =
        (entries.map fun e => (Value.keyName e.1, style.entryText e)).mergeSort
          fun a b => decide (a.1 ≤ b.1) :=
    List.map_mergeSort fun _ _ _ _ => rfl
  rw [arrange, order]
  split
  · rw [← hsorted, List.map_map]
    rfl
  · rw [List.map_map]
    rfl

end Style

variable {style : Style}

/-! ### Lists and mappings -/

lemma separated_map_cons {α : Type} (text : α → List Char) (a b : α) (rest : List α) :
    separated ((a :: b :: rest).map text) =
      text a ++ ',' :: ' ' :: separated ((b :: rest).map text) := by
  simp only [List.map_cons, separated, List.append_assoc, List.cons_append, List.nil_append]

/-- Texts with commas between them start as the first of them. -/
lemma skipSpace_separated {α : Type} {text : α → List Char} {a : α} {c : Char} {more : List Char}
    (htext : text a = c :: more) (hspace : isSpace c = false) (rest : List α) (after : List Char) :
    skipSpace (separated ((a :: rest).map text) ++ after) =
      separated ((a :: rest).map text) ++ after := by
  cases rest with
  | nil =>
    rw [List.map_singleton, separated, htext, List.cons_append]
    exact skipSpace_cons hspace (more ++ after)
  | cons b rest =>
    rw [separated_map_cons, htext, List.cons_append, List.cons_append]
    exact skipSpace_cons hspace _

/-- What closes a list or stands between its items goes on with no number. -/
lemma stops_closing (after : List Char) : Stops (']' :: after) :=
  stops_cons (by decide) (by decide) (by decide) (by decide) after

lemma stops_comma (after : List Char) : Stops (',' :: after) :=
  stops_cons (by decide) (by decide) (by decide) (by decide) after

lemma stops_brace (after : List Char) : Stops ('\x7d' :: after) :=
  stops_cons (by decide) (by decide) (by decide) (by decide) after

/-- Items with commas between them are read one after another. -/
lemma readItems_separated {items : List Value} (hne : items ≠ [])
    (hitems : ∀ v ∈ items, Reads (style.textOf v) (style.shown v)) (fuel : Nat) (after : List Char)
    (hfuel : (separated (items.map style.textOf)).length < fuel) :
    readItems fuel (separated (items.map style.textOf) ++ ']' :: after) =
      some (items.map style.shown, after) := by
  -- each item takes one unit of fuel, and its text leaves enough of it for the others
  induction items generalizing fuel with
  | nil => exact absurd rfl hne
  | cons v rest ih =>
    have hv : Reads (style.textOf v) (style.shown v) := hitems v List.mem_cons_self
    cases fuel with
    | zero => exact absurd hfuel (Nat.not_lt_zero _)
    | succ fuel =>
      cases rest with
      | nil =>
        rw [List.map_singleton, separated] at hfuel ⊢
        have hread := hv.reads fuel (']' :: after) (by omega) (stops_closing after)
        have hskip : skipSpace (']' :: after) = ']' :: after := skipSpace_cons (by decide) after
        rw [readItems, hread]
        simp only [Option.bind_eq_bind, Option.bind_some, hskip]
        rfl
      | cons w rest =>
        obtain ⟨c, more, hstart, hspace, -⟩ := (hitems w (by simp)).starts
        rw [separated_map_cons] at hfuel ⊢
        simp only [List.length_append, List.length_cons] at hfuel
        rw [List.append_assoc, List.cons_append, List.cons_append]
        have hread := hv.reads fuel
          (',' :: ' ' :: (separated ((w :: rest).map style.textOf) ++ ']' :: after))
          (by omega) (stops_comma _)
        have hcomma {cs : List Char} : skipSpace (',' :: cs) = ',' :: cs :=
          skipSpace_cons (by decide) cs
        have hmore := ih (List.cons_ne_nil w rest)
          (fun u hu => hitems u (List.mem_cons_of_mem _ hu)) fuel (by omega)
        rw [readItems, hread]
        simp only [Option.bind_eq_bind, Option.bind_some, hcomma, skipSpace_space,
          skipSpace_separated hstart hspace, hmore]
        rfl

/-- An entry whose value is read is read as a whole. -/
lemma readEntry {e : Value × Value} (he : Reads (style.textOf e.2) (style.shown e.2))
    (rest : List Char) :
    ∃ body, style.entryText e ++ rest = '"' :: body ∧
      readText body = some ((Value.keyName e.1).toList, ':' :: ' ' :: (style.textOf e.2 ++ rest)) ∧
      skipSpace (' ' :: (style.textOf e.2 ++ rest)) = style.textOf e.2 ++ rest := by
  obtain ⟨body, hbody, hread⟩ := readText_writeText style.asciiOnly (Value.keyName e.1)
    (':' :: ' ' :: (style.textOf e.2 ++ rest))
  refine ⟨body, ?_, hread, ?_⟩
  · rw [← hbody]
    simp only [Style.entryText, List.append_assoc, List.cons_append, List.nil_append]
  · rw [skipSpace_space, he.skipSpace_append]

/-- The entry that is read for an entry. -/
def readBack (style : Style) (entry : Value × Value) : Value × Value :=
  (.text (Value.keyName entry.1), style.shown entry.2)

/-- Entries with commas between them are read one after another. -/
lemma readEntries_separated {entries : Mapping} (hne : entries ≠ [])
    (hvalues : ∀ e ∈ entries, Reads (style.textOf e.2) (style.shown e.2)) (fuel : Nat)
    (after : List Char)
    (hfuel : (separated (entries.map style.entryText)).length < fuel) :
    readEntries fuel (separated (entries.map style.entryText) ++ '\x7d' :: after) =
      some (entries.map (readBack style), after) := by
  induction entries generalizing fuel with
  | nil => exact absurd rfl hne
  | cons e rest ih =>
    have he : Reads (style.textOf e.2) (style.shown e.2) := hvalues e List.mem_cons_self
    have hlength : (style.textOf e.2).length ≤ (style.entryText e).length := by
      simp only [Style.entryText, List.length_append]
      omega
    have hcolon {cs : List Char} : skipSpace (':' :: cs) = ':' :: cs :=
      skipSpace_cons (by decide) cs
    cases fuel with
    | zero => exact absurd hfuel (Nat.not_lt_zero _)
    | succ fuel =>
      cases rest with
      | nil =>
        rw [List.map_singleton, separated] at hfuel ⊢
        obtain ⟨body, hbody, htext, hskip⟩ := readEntry he ('\x7d' :: after)
        have hread := he.reads fuel ('\x7d' :: after) (by omega) (stops_brace after)
        have hbrace : skipSpace ('\x7d' :: after) = '\x7d' :: after :=
          skipSpace_cons (by decide) after
        rw [hbody, readEntries]
        simp only [Option.bind_eq_bind, Option.bind_some, htext, hcolon, hskip, hread, hbrace,
          String.ofList_toList]
        rfl
      | cons f rest =>
        have hstart := style.entryText_eq_cons f
        rw [separated_map_cons] at hfuel ⊢
        simp only [List.length_append, List.length_cons] at hfuel
        rw [List.append_assoc, List.cons_append, List.cons_append]
        obtain ⟨body, hbody, htext, hskip⟩ := readEntry he
          (',' :: ' ' :: (separated ((f :: rest).map style.entryText) ++ '\x7d' :: after))
        have hread := he.reads fuel
          (',' :: ' ' :: (separated ((f :: rest).map style.entryText) ++ '\x7d' :: after))
          (by omega) (stops_comma _)
        have hcomma {cs : List Char} : skipSpace (',' :: cs) = ',' :: cs :=
          skipSpace_cons (by decide) cs
        have hmore := ih (List.cons_ne_nil f rest)
          (fun u hu => hvalues u (List.mem_cons_of_mem _ hu)) fuel (by omega)
        rw [hbody, readEntries]
        simp only [Option.bind_eq_bind, Option.bind_some, htext, hcolon, hskip, hread, hcomma,
          skipSpace_space, skipSpace_separated hstart (by decide), hmore, String.ofList_toList]
        rfl

lemma readValue_list {cs : List Char} (h : ∀ after, skipSpace cs ≠ ']' :: after) (fuel : Nat) :
    readValue (fuel + 1) ('[' :: cs) =
      (readItems fuel (skipSpace cs)).map fun read => (.list read.1, read.2) := by
  simp only [readValue]
  cases readItems fuel (skipSpace cs) <;> rfl

lemma readValue_map {cs : List Char} (h : ∀ after, skipSpace cs ≠ '\x7d' :: after) (fuel : Nat) :
    readValue (fuel + 1) ('\x7b' :: cs) =
      (readEntries fuel (skipSpace cs)).map fun read =>
        (.map (Mapping.ofPairs read.1), read.2) := by
  simp only [readValue]
  cases readEntries fuel (skipSpace cs) <;> rfl

/-- Texts with commas between them start with the character that the first of them starts with. -/
lemma separated_ne_cons {α : Type} {text : α → List Char} {a : α} {c d : Char} {more : List Char}
    (htext : text a = c :: more) (hne : c ≠ d) (rest : List α) (after after' : List Char) :
    separated ((a :: rest).map text) ++ after ≠ d :: after' := by
  cases rest with
  | nil =>
    rw [List.map_singleton, separated, htext, List.cons_append]
    exact fun heq => hne (List.cons.inj heq).1
  | cons b rest =>
    rw [separated_map_cons, htext, List.cons_append, List.cons_append]
    exact fun heq => hne (List.cons.inj heq).1

/-- The text of a list is read as the list. -/
lemma reads_list {items : List Value}
    (hitems : ∀ v ∈ items, Reads (style.textOf v) (style.shown v)) :
    Reads ('[' :: separated (items.map style.textOf) ++ [']'])
      (.list (items.map style.shown)) := by
  refine ⟨⟨'[', _, rfl, by decide, by decide⟩, fun fuel rest hfuel _ => ?_⟩
  simp only [List.length_append, List.length_cons, List.length_nil] at hfuel
  rw [List.append_assoc, List.cons_append, List.singleton_append]
  cases fuel with
  | zero => omega
  | succ fuel =>
    cases items with
    | nil =>
      have hskip : skipSpace (']' :: rest) = ']' :: rest := skipSpace_cons (by decide) rest
      simp only [List.map_nil, separated, List.nil_append, readValue, hskip]
    | cons v items =>
      obtain ⟨c, more, hstart, hspace, hclosing⟩ := (hitems v List.mem_cons_self).starts
      have hskip := skipSpace_separated hstart hspace items (']' :: rest)
      have hread := readItems_separated (List.cons_ne_nil v items) hitems fuel rest (by omega)
      have hopen (after : List Char) :
          skipSpace (separated ((v :: items).map style.textOf) ++ ']' :: rest) ≠ ']' :: after := by
        rw [hskip]
        exact separated_ne_cons hstart hclosing items (']' :: rest) after
      rw [readValue_list hopen, hskip, hread, Option.map_some]

/-- The text of a mapping is read as the mapping. -/
lemma reads_map {entries : Mapping}
    (hvalues : ∀ e ∈ entries, Reads (style.textOf e.2) (style.shown e.2)) :
    Reads ('\x7b' :: separated (entries.map style.entryText) ++ ['\x7d'])
      (.map (Mapping.ofPairs (entries.map (readBack style)))) := by
  refine ⟨⟨'\x7b', _, rfl, by decide, by decide⟩, fun fuel rest hfuel _ => ?_⟩
  simp only [List.length_append, List.length_cons, List.length_nil] at hfuel
  rw [List.append_assoc, List.cons_append, List.singleton_append]
  cases fuel with
  | zero => omega
  | succ fuel =>
    cases entries with
    | nil =>
      have hskip : skipSpace ('\x7d' :: rest) = '\x7d' :: rest := skipSpace_cons (by decide) rest
      simp only [List.map_nil, separated, List.nil_append, readValue, hskip]
      rfl
    | cons e entries =>
      have hstart := style.entryText_eq_cons e
      have hskip := skipSpace_separated hstart (by decide) entries ('\x7d' :: rest)
      have hread := readEntries_separated (List.cons_ne_nil e entries) hvalues fuel rest (by omega)
      have hopen (after : List Char) :
          skipSpace (separated ((e :: entries).map style.entryText) ++ '\x7d' :: rest) ≠
            '\x7d' :: after := by
        rw [hskip]
        exact separated_ne_cons hstart (by decide) entries ('\x7d' :: rest) after
      rw [readValue_map hopen, hskip, hread, Option.map_some]

/-! ### Plain data -/

/-- Whether a value is written in a style, and what is written is read as the style shows it. -/
def RoundTrips (style : Style) (v : Value) : Prop :=
  write style v = .ok (style.textOf v) ∧ Reads (style.textOf v) (style.shown v)

lemma textOf_of_write {v : Value} {cs : List Char} (h : write style v = .ok cs) :
    style.textOf v = cs := by
  rw [Style.textOf, h]
  rfl

lemma roundTrips_of_write {v : Value} {cs : List Char} (hwrite : write style v = .ok cs)
    (hreads : Reads cs (style.shown v)) : RoundTrips style v := by
  rw [RoundTrips, textOf_of_write hwrite]
  exact ⟨hwrite, hreads⟩

lemma writeItems_eq {items : List Value} (h : ∀ v ∈ items, RoundTrips style v) :
    writeItems style items = .ok (items.map style.textOf) := by
  induction items with
  | nil => rfl
  | cons v rest ih =>
    rw [writeItems, (h v List.mem_cons_self).1, ih fun v hv => h v (List.mem_cons_of_mem _ hv)]
    rfl

lemma writeEntries_eq {entries : List (Value × Value)}
    (hkeys : ∀ e ∈ entries, ∃ name, e.1 = .text name) (h : ∀ e ∈ entries, RoundTrips style e.2) :
    writeEntries style entries =
      .ok (entries.map fun e => (Value.keyName e.1, style.entryText e)) := by
  induction entries with
  | nil => rfl
  | cons e rest ih =>
    obtain ⟨key, v⟩ := e
    obtain ⟨name, rfl⟩ := hkeys (key, v) List.mem_cons_self
    rw [writeEntries, (h _ List.mem_cons_self).1,
      ih (fun e he => hkeys e (List.mem_cons_of_mem _ he))
        fun e he => h e (List.mem_cons_of_mem _ he)]
    rfl

lemma write_list {items : List Value} (h : ∀ v ∈ items, RoundTrips style v) :
    write style (.list items) = .ok ('[' :: separated (items.map style.textOf) ++ [']']) := by
  rw [write, writeItems_eq h]
  rfl

lemma write_map {entries : Mapping} (hkeys : ∀ e ∈ entries, ∃ name, e.1 = .text name)
    (h : ∀ e ∈ entries, RoundTrips style e.2) :
    write style (.map entries) =
      .ok ('\x7b' :: separated ((style.order entries).map style.entryText) ++ ['\x7d']) := by
  rw [write, writeEntries_eq hkeys h, style.map_entryText_order]
  rfl

lemma roundTrips (style : Style) {v : Value} (hv : v.Plain) : RoundTrips style v := by
  have hatom {v : Value} (hsorted : v.sorted = v) : style.shown v = v := by
    rw [Style.shown, hsorted, ite_self]
  induction hv with
  | null => exact roundTrips_of_write rfl (by rw [hatom rfl]; exact reads_null)
  | bool b => exact roundTrips_of_write rfl (by rw [hatom rfl]; exact reads_bool b)
  | int n => exact roundTrips_of_write rfl (by rw [hatom rfl]; exact reads_int n)
  | text s => exact roundTrips_of_write rfl (by rw [hatom rfl]; exact reads_text style.asciiOnly s)
  | @list items hitems ih =>
    refine roundTrips_of_write (write_list ih) ?_
    rw [style.shown_list]
    exact reads_list fun v hv => (ih v hv).2
  | @map entries hkeys hvalues hdistinct ih =>
    have hmem (e : Value × Value) (he : e ∈ style.order entries) : e ∈ entries :=
      (style.order_perm entries).mem_iff.mp he
    have hback : (style.order entries).map (readBack style) =
        (style.order entries).map fun e => (e.1, style.shown e.2) := by
      refine List.map_congr_left fun e he => ?_
      obtain ⟨name, hname⟩ := hkeys e (hmem e he)
      rw [readBack, hname]
      rfl
    have hof : Mapping.ofPairs ((style.order entries).map fun e => (e.1, style.shown e.2)) =
        (style.order entries).map fun e => (e.1, style.shown e.2) := by
      refine Mapping.ofPairs_of_distinct ?_ ?_
      · intro e he
        obtain ⟨old, hold, rfl⟩ := List.mem_map.mp he
        exact hkeys old (hmem old hold)
      · rw [List.map_map]
        exact ((style.order_perm entries).map (·.1)).nodup_iff.mpr hdistinct
    refine roundTrips_of_write (write_map hkeys ih) ?_
    rw [style.shown_map, ← hof, ← hback]
    exact reads_map fun e he => (ih e (hmem e he)).2

/-- Plain data come back from their text as the style shows them. -/
theorem decode_encode (style : Style) {v : Value} (hv : v.Plain) :
    ∃ text, encode style v = .ok text ∧ decode text = .ok (style.shown v) := by
  obtain ⟨hwrite, hreads⟩ := roundTrips style hv
  refine ⟨String.ofList (style.textOf v), ?_, ?_⟩
  · rw [encode, hwrite]
    rfl
  · have hskip := hreads.skipSpace_append []
    have hread := hreads.reads ((style.textOf v).length + 1) [] (Nat.le_succ _) stops_nil
    rw [List.append_nil] at hskip hread
    rw [decode, decode?, String.toList_ofList, hskip, hread]
    rfl

/-- Plain data come back from their canonical text with the entries of every mapping in the order of
their keys. -/
theorem decode_canonical {v : Value} (hv : v.Plain) :
    ∃ text, encode .canonical v = .ok text ∧ decode text = .ok v.sorted :=
  decode_encode .canonical hv

end Metastore.Json
