import Metastore.Proofs.Environment.Resolve
import Metastore.Proofs.Value.Node

/-!
# What placeholders are replaced by

A text is written as a sequence of literals and placeholders. Replacing the placeholders leaves the
literals as they are, and puts the value of a variable, or a default, for each placeholder, which is not
looked at again. In a tree this happens to every text, and to nothing else
(`Environment.replaced_once`).
-/

namespace Metastore

/-- What opens a placeholder. -/
def Placeholder.opening : List Char := ['$', '\x7b']

/-- A placeholder as it is written. -/
def Placeholder.written (p : Placeholder) : List Char :=
  opening ++ p.name ++ (p.default.elim [] ('|' :: ·)) ++ ['\x7d']

/-- Whether a placeholder can be written: the name is not empty, and neither the name nor the default
has characters that would end it early. -/
structure Placeholder.IsWritable (p : Placeholder) : Prop where
  name_ne_nil : p.name ≠ []
  name_plain : '\x7d' ∉ p.name ∧ ':' ∉ p.name ∧ '|' ∉ p.name
  default_plain : ∀ d ∈ p.default, '\x7d' ∉ d

instance : DecidablePred Placeholder.IsWritable := fun p =>
  decidable_of_iff
    (p.name ≠ [] ∧ ('\x7d' ∉ p.name ∧ ':' ∉ p.name ∧ '|' ∉ p.name) ∧ ∀ d ∈ p.default, '\x7d' ∉ d)
    ⟨fun h => ⟨h.1, h.2.1, h.2.2⟩, fun h => ⟨h.name_ne_nil, h.name_plain, h.default_plain⟩⟩

/-- A part of a text as it is written: characters that stand for themselves, or a placeholder. -/
inductive Part where
  | literal (cs : List Char)
  | placeholder (p : Placeholder)

namespace Part

/-- A part as it is written. -/
def text : Part → List Char
  | literal cs => cs
  | placeholder p => p.written

/-- What a part stands for: a literal for itself, and a placeholder for the value of its variable if that
is set, for its default if not, and for nothing without a default. -/
def meaning (env : Environment) : Part → List Char
  | literal cs => cs
  | placeholder p => ((env.value? (String.ofList p.name)).map String.toList).getD (p.default.getD [])

/-- Whether a part can be written: a literal opens no placeholder. -/
def IsWritable : Part → Prop
  | literal cs => ¬ Placeholder.opening <:+: cs
  | placeholder p => p.IsWritable

instance : DecidablePred IsWritable
  | literal cs => inferInstanceAs (Decidable (¬ Placeholder.opening <:+: cs))
  | placeholder p => inferInstanceAs (Decidable p.IsWritable)

/-- Whether a part may stand in front of another one: literals are never neighbours. -/
def MayPrecede : Part → Part → Prop
  | literal _, literal _ => False
  | _, _ => True

end Part

variable {cs rest after : List Char} {p : Placeholder}

namespace Placeholder

lemma isNameChar_iff {c : Char} : isNameChar c = true ↔ c ≠ '\x7d' ∧ c ≠ ':' ∧ c ≠ '|' := by
  simp [isNameChar, and_assoc]

/-- A name ends where a character follows that no name has. -/
lemma IsWritable.span_name (h : p.IsWritable) {c : Char} (hc : isNameChar c = false) (rest : List Char) :
    (p.name ++ c :: rest).takeWhile isNameChar = p.name ∧
      (p.name ++ c :: rest).dropWhile isNameChar = c :: rest := by
  have hname : ∀ d ∈ p.name, isNameChar d = true := by
    intro d hd
    rw [isNameChar_iff]
    obtain ⟨hclose, hcolon, hbar⟩ := h.name_plain
    refine ⟨?_, ?_, ?_⟩ <;> rintro rfl <;> contradiction
  constructor
  · rw [List.takeWhile_append_of_pos hname, List.takeWhile_cons_of_neg (by simp [hc]), List.append_nil]
  · rw [List.dropWhile_append_of_pos hname, List.dropWhile_cons_of_neg (by simp [hc])]

/-- A placeholder is read as it was written, whatever follows it. -/
lemma read?_written (h : p.IsWritable) (rest : List Char) :
    read? (p.written ++ rest) = some (p, rest) := by
  obtain ⟨name, default⟩ := p
  have hname : name.isEmpty = false := by simpa using h.name_ne_nil
  cases default with
  | none =>
    obtain ⟨htake, hdrop⟩ := h.span_name (c := '\x7d') (by decide) rest
    have hread : readBody? (name ++ '\x7d' :: rest) = some (⟨name, none⟩, rest) := by
      simp only [readBody?, htake, hdrop, hname]
      rfl
    simpa [written, opening, read?] using hread
  | some d =>
    have hd : '\x7d' ∉ d := h.default_plain d rfl
    obtain ⟨htake, hdrop⟩ := h.span_name (c := '|') (by decide) (d ++ '\x7d' :: rest)
    have hcut : (d ++ '\x7d' :: rest).takeWhile (· != '\x7d') = d ∧
        (d ++ '\x7d' :: rest).dropWhile (· != '\x7d') = '\x7d' :: rest := by
      have hall : ∀ c ∈ d, (c != '\x7d') = true := by
        intro c hc
        rw [bne_iff_ne]
        rintro rfl
        exact hd hc
      simp [List.takeWhile_append_of_pos hall, List.dropWhile_append_of_pos hall]
    have hread : readBody? (name ++ '|' :: (d ++ '\x7d' :: rest)) = some (⟨name, some d⟩, rest) := by
      simp only [readBody?, htake, hdrop, hname, hcut.1, hcut.2]
      rfl
    simpa [written, opening, read?] using hread

/-- Only what opens a placeholder is read as one. -/
lemma read?_eq_none (h : ¬ opening <+: cs) : read? cs = none := by
  rw [read?.eq_def]
  split
  · exact absurd (List.prefix_append opening _) h
  · rfl

end Placeholder

namespace Segment

lemma ofText_of_read? (h : Placeholder.read? cs = some (p, after)) :
    ofText cs = .hole p :: ofText after := by
  cases cs with
  | nil => cases h
  | cons c rest =>
    rw [ofText]
    split
    · next hfound =>
      obtain ⟨rfl, rfl⟩ := Prod.mk.inj (Option.some.inj (hfound.symm.trans h))
      rfl
    · next hnone => simp [hnone] at h

lemma ofText_cons {c : Char} (h : Placeholder.read? (c :: rest) = none) :
    ofText (c :: rest) = .char c :: ofText rest := by
  rw [ofText]
  split
  · next hfound => simp [hfound] at h
  · rfl

/-- The characters of a literal stand for themselves, unless what follows completes an opening. -/
lemma ofText_literal (h : ¬ Placeholder.opening <:+: cs) (hrest : ∀ c ∈ rest.head?, c ≠ '\x7b') :
    ofText (cs ++ rest) = cs.map .char ++ ofText rest := by
  induction cs with
  | nil => rfl
  | cons c more ih =>
    rw [List.infix_cons_iff, not_or] at h
    have hnot : ¬ Placeholder.opening <+: c :: (more ++ rest) := by
      intro hopens
      obtain ⟨rfl, hnext⟩ := List.cons_prefix_cons.mp hopens
      cases more with
      | nil =>
        obtain ⟨tail, htail⟩ := hnext
        have hhead : rest.head? = some '\x7b' := by
          rw [← List.nil_append rest, ← htail]
          rfl
        exact hrest '\x7b' hhead rfl
      | cons d more =>
        obtain ⟨rfl, -⟩ := List.cons_prefix_cons.mp hnext
        exact h.1 ⟨more, rfl⟩
    rw [List.cons_append, ofText_cons (Placeholder.read?_eq_none hnot), ih h.2, List.map_cons,
      List.cons_append]

end Segment

namespace Part

/-- What follows a literal does not complete an opening. -/
lemma ne_of_chain {cs : List Char} {parts : List Part}
    (h : (literal cs :: parts).IsChain MayPrecede) :
    ∀ c ∈ (parts.flatMap text).head?, c ≠ '\x7b' := by
  cases parts with
  | nil => simp
  | cons next parts =>
    cases next with
    | literal ds => exact absurd (List.isChain_cons_cons.mp h).1 id
    | placeholder p =>
      have hhead : ((placeholder p :: parts).flatMap text).head? = some '$' := rfl
      rw [hhead]
      simp

/-- A text is cut where its parts are, so each part is filled by itself. -/
lemma fill_ofText (env : Environment) {parts : List Part} (hparts : ∀ part ∈ parts, part.IsWritable)
    (hchain : parts.IsChain MayPrecede) :
    (Segment.ofText (parts.flatMap text)).flatMap (Segment.fill env) = parts.flatMap (meaning env) := by
  induction parts with
  | nil => simp [Segment.ofText]
  | cons part parts ih =>
    have hrest := ih (fun p hp => hparts p (List.mem_cons_of_mem _ hp)) hchain.tail
    have hpart := hparts part List.mem_cons_self
    rw [List.flatMap_cons, List.flatMap_cons, ← hrest]
    cases part with
    | literal cs =>
      have hfill : (cs.map Segment.char).flatMap (Segment.fill env) = cs := by
        simp [List.flatMap_map, Segment.fill]
      rw [text, Segment.ofText_literal hpart (ne_of_chain hchain), List.flatMap_append, hfill, meaning]
    | placeholder p =>
      have hfill : p.fill env = meaning env (placeholder p) := by
        rw [Placeholder.fill, meaning]
        cases env.value? (String.ofList p.name) <;> rfl
      rw [text, Segment.ofText_of_read? (Placeholder.read?_written hpart _), List.flatMap_cons,
        Segment.fill, hfill]

end Part

namespace Environment

lemma resolveItems_eq_map (env : Environment) (items : List Value) :
    env.resolveItems items = items.map env.resolve := by
  induction items with
  | nil => rfl
  | cons v rest ih => rw [resolveItems, ih, List.map_cons]

/-- The node of a tree after its placeholders were replaced: a text has its own replaced. -/
def replaceNode (env : Environment) : Value.Node → Value.Node
  | .text s => .text (env.substitute s)
  | node => node

lemma root_resolve (env : Environment) (v : Value) : (env.resolve v).root = env.replaceNode v.root := by
  cases v with
  | list items => simp [resolve, resolveItems_eq_map, Value.root, replaceNode]
  | map entries => simp [resolve, resolveEntries_eq_map, Value.root, replaceNode]
  | _ => rfl

lemma child?_resolve (env : Environment) (v : Value) (i : Nat) :
    (env.resolve v).child? i = (v.child? i).map env.resolve := by
  cases v with
  | list items => simp [resolve, resolveItems_eq_map, Value.child?]
  | map entries =>
    simp only [resolve, resolveEntries_eq_map, Value.child?, List.getElem?_map, Option.map_map]
    rfl
  | _ => rfl

lemma node?_resolve (env : Environment) (v : Value) (walk : List Nat) :
    (env.resolve v).node? walk = (v.node? walk).map env.replaceNode := by
  rw [Value.node?, Value.node?, Value.below?_of_child? (child?_resolve env)]
  cases v.below? walk with
  | none => rfl
  | some w => exact congrArg some (root_resolve env w)

/-- Take a text that is written as a sequence of literals, no two of them neighbours, and placeholders.
With its placeholders replaced it is what its parts stand for, one after another. In a tree of lists and
mappings, at any depth, the texts are replaced so; keys, lengths and all other leaves stay as they are. -/
theorem replaced_once (env : Environment) {parts : List Part}
    (hparts : ∀ part ∈ parts, part.IsWritable) (hchain : parts.IsChain Part.MayPrecede) :
    env.substitute (String.ofList (parts.flatMap Part.text)) =
        String.ofList (parts.flatMap (Part.meaning env)) ∧
      ∀ (v : Value) (walk : List Nat),
        (env.resolve v).node? walk = (v.node? walk).map env.replaceNode := by
  constructor
  · rw [substitute, String.toList_ofList, Part.fill_ofText env hparts hchain]
  · exact node?_resolve env

/-- A value that looks like a placeholder, a default that opens one, a variable that is set to nothing,
and stray signs next to placeholders; the key of an entry stays as it is. -/
theorem replaced_once_mixed :
    let env : Environment := [("A", "$\x7bB\x7d"), ("E", "")]
    let text := "a $$\x7bA\x7d\x7d\x7b$$\x7bB|$\x7bA\x7d$\x7bE|d\x7d"
    let tree : Value := .map [(.text text, .list [.int 1, .text text])]
    env.substitute text = "a $$\x7bB\x7d\x7d\x7b$$\x7bA" ∧
      (env.resolve tree).node? [] = some (.map [.text text]) ∧
      (env.resolve tree).node? [0, 0] = some (.leaf (.int 1)) ∧
      (env.resolve tree).node? [0, 1] = some (.text "a $$\x7bB\x7d\x7d\x7b$$\x7bA") := by
  intro env text tree
  let parts : List Part := [.literal "a $".toList, .placeholder ⟨"A".toList, none⟩,
    .literal "\x7d\x7b$".toList, .placeholder ⟨"B".toList, some "$\x7bA".toList⟩,
    .placeholder ⟨"E".toList, some "d".toList⟩]
  have hparts : ∀ part ∈ parts, part.IsWritable := by decide
  have hchain : parts.IsChain Part.MayPrecede := by
    simp [parts, Part.MayPrecede]
  obtain ⟨htext, htree⟩ := replaced_once env hparts hchain
  refine ⟨htext, htree tree [], htree tree [0, 0], ?_⟩
  rw [htree tree [0, 1]]
  exact congrArg (fun s => some (Value.Node.text s)) htext

end Environment
end Metastore
