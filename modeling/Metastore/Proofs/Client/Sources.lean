import Metastore.Proofs.Client.Items
import Metastore.Proofs.Client.Refusals
import Metastore.Proofs.Json.Canonical

/-!
# The sources of items

What an item keeps of a document is a text. It is pure ASCII, it is read as the document up to the
order of entries, and documents that differ only in this order are kept as the same text.
-/

namespace Metastore.Item

variable {field id tenant document : Value} {source : String}

/-- Whether a text is put as the source of the item of a document. -/
def IsSourceOf (field id tenant document : Value) (source : String) : Prop :=
  ∃ item, ofDocument field id document tenant = .ok item ∧
    item.getText? sourceAttribute = some (textAttribute (.text source))

lemma isSourceOf_iff (hkey : field.isKey = true) :
    IsSourceOf field id tenant document source ↔ Json.encode .canonical document = .ok source := by
  constructor
  · rintro ⟨item, hitem, hsource⟩
    obtain ⟨key, -, hencode⟩ := except_bind_eq_ok.mp hitem
    obtain ⟨written, hwritten, -⟩ := except_bind_eq_ok.mp hencode
    rw [getText?_ofDocument hitem hwritten] at hsource
    have hsame : written = source := by simpa [textAttribute] using hsource
    rw [hwritten, hsame]
  · intro hencode
    obtain ⟨key, hkey⟩ := exists_key hkey id tenant
    have hitem : ofDocument field id document tenant =
        .ok (key.setText sourceAttribute (textAttribute (.text source))) := by
      rw [ofDocument, hkey, hencode]
      rfl
    exact ⟨_, hitem, getText?_ofDocument hitem hencode⟩

/-- The source of a plain document is pure ASCII, is read as the document up to the order of
entries, and is shared by exactly the documents that differ from it in nothing else. -/
theorem source_of_document (hkey : field.isKey = true) (hplain : document.Plain)
    (id tenant : Value) :
    ∃ source, IsSourceOf field id tenant document source ∧ Text.IsAscii source.toList ∧
      (∀ item : Mapping, item.getText? sourceAttribute = some (textAttribute (.text source)) →
        ∃ back, documentOf (.map [(.text "Item", .map item)]) = .ok back ∧
          document.Reordered back ∧ back.same document = true) ∧
      ∀ other, other.Plain →
        (IsSourceOf field id tenant other source ↔ document.Reordered other) := by
  obtain ⟨source, hencode, hdecode⟩ := Json.decode_canonical hplain
  refine ⟨source, (isSourceOf_iff hkey).mpr hencode, ?_, ?_, ?_⟩
  · have htext : Json.encode .canonical document =
        .ok (String.ofList (Json.Style.canonical.textOf document)) := by
      rw [Json.encode, Json.write_eq_textOf .canonical hplain]
      rfl
    rw [Except.ok.inj (hencode.symm.trans htext), String.toList_ofList]
    exact Json.isAscii_textOf rfl hplain
  · intro item hsource
    refine ⟨document.sorted, ?_, .sorted hplain, Value.same_sorted hplain⟩
    rw [documentOf_item hsource, hdecode]
  · intro other hother
    rw [isSourceOf_iff hkey, ← Json.encode_eq_iff hplain hother, hencode, eq_comm]

/-- Two documents with their entries in a different order, also inside a list, have one source. -/
theorem source_of_document_reordered :
    let inner : Mapping := [(.text "y", .null), (.text "x", .bool true)]
    let document : Value := .map [(.text "ü", .int (-7)), (.text "list", .list [.map inner])]
    let other : Value := .map [(.text "list", .list [.map inner.reverse]), (.text "ü", .int (-7))]
    ∃ source, IsSourceOf .null (.text "d") (.text "A") document source ∧
      IsSourceOf .null (.text "d") (.text "A") other source ∧ Text.IsAscii source.toList := by
  intro inner document other
  have hinner : (Value.map inner).Plain := by
    refine .map ?_ ?_ (by decide)
    · simp [inner]
    · simp [inner, Value.Plain.null, Value.Plain.bool]
  have hlist : (Value.list [.map inner]).Plain := .list (by simp [hinner])
  have hplain : document.Plain := by
    refine .map ?_ ?_ (by decide)
    · simp
    · simp [Value.Plain.int, hlist]
  have hreordered : document.Reordered other := by
    have hperm : (Value.map inner).Reordered (.map inner.reverse) :=
      .perm (List.reverse_perm inner).symm
    have hinside := (hperm.item [] []).entry [(.text "ü", .int (-7))] (.text "list") []
    exact hinside.trans (.perm (List.Perm.swap _ _ []))
  have hkey : Value.null.isKey = true := rfl
  obtain ⟨source, hsource, hascii, -, hothers⟩ :=
    source_of_document hkey hplain (.text "d") (.text "A")
  exact ⟨source, hsource, (hothers other (hreordered.plain hplain)).mpr hreordered, hascii⟩

end Metastore.Item
