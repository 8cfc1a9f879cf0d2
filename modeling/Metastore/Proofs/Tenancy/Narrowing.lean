import Metastore.Proofs.Value.Mapping
import Metastore.Tenancy

/-!
# Searches narrowed to tenants

What a search finds, by a reading of queries that knows conjunctions, terms and the query that matches
everything, and leaves every other query to a predicate. A body that is narrowed to several tenants in turn
finds what it found before and belongs to all of them (`Tenancy.narrowed_in_turn`).
-/

namespace Metastore

/-! ### Reading queries -/

/-- A query, read one level deep: it matches everything, or documents with a value in a field, or
documents that match several queries, or it is of another kind. -/
inductive Query where
  | all
  | term (field : String) (value : Value)
  | both (queries : List Value)
  | other

namespace Query

/-- The queries that a clause of a conjunction asks to be matched; clauses of other kinds are not read. -/
def ofClause? : Value × Value → Option (List Value)
  | (.text "must", .list queries) => some queries
  | (.text "filter", .list queries) => some queries
  | (.text "must", query) => some [query]
  | (.text "filter", query) => some [query]
  | _ => none

/-- Reads a query. -/
def ofValue : Value → Query
  | .map [(.text "match_all", _)] => .all
  | .map [(.text "term", .map [(.text field, value)])] => .term field value
  | .map [(.text "bool", .map clauses)] =>
    match clauses.mapM ofClause? with
    | some queries => .both queries.flatten
    | none => .other
  | _ => .other

end Query

/-- Whether a document has a value in a field. -/
def Mapping.HasField (document : Mapping) (field : String) (value : Value) : Prop :=
  (document.getText field).same value = true

namespace Query

/-- Whether a document matches a query. What is not read is matched as `other` says. -/
inductive Matches (other : Value → Mapping → Prop) (document : Mapping) : Value → Prop where
  | all {query : Value} (hread : ofValue query = .all) : Matches other document query
  | term {query value : Value} {field : String} (hread : ofValue query = .term field value)
      (hfield : document.HasField field value) : Matches other document query
  | both {query : Value} {queries : List Value} (hread : ofValue query = .both queries)
      (hall : ∀ part ∈ queries, Matches other document part) : Matches other document query
  | other {query : Value} (hread : ofValue query = .other) (hother : other query document) :
      Matches other document query

variable {other : Value → Mapping → Prop} {document : Mapping} {query value : Value} {field : String}

namespace Matches

lemma iff_of_all (hread : ofValue query = .all) : Matches other document query ↔ True :=
  ⟨fun _ => trivial, fun _ => .all hread⟩

lemma iff_of_term (hread : ofValue query = .term field value) :
    Matches other document query ↔ document.HasField field value := by
  constructor
  · intro h
    cases h with
    | term hread' hfield =>
      rw [hread] at hread'
      cases hread'
      exact hfield
    | _ => simp_all
  · exact .term hread

lemma iff_of_both {queries : List Value} (hread : ofValue query = .both queries) :
    Matches other document query ↔ ∀ part ∈ queries, Matches other document part := by
  constructor
  · intro h
    cases h with
    | both hread' hall =>
      rw [hread] at hread'
      cases hread'
      exact hall
    | _ => simp_all
  · exact .both hread

lemma iff_of_other (hread : ofValue query = .other) :
    Matches other document query ↔ other query document := by
  constructor
  · intro h
    cases h with
    | other _ hother => exact hother
    | _ => simp_all
  · exact .other hread

end Matches

/-- Whether a search body finds a document: the document matches the query, if there is one. -/
def Finds (other : Value → Mapping → Prop) (document body : Mapping) : Prop :=
  ∀ query ∈ body.getText? "query", Matches other document query

end Query

/-! ### Narrowing a body -/

namespace Tenancy

open Query (Matches Finds)

variable {other : Value → Mapping → Prop} {document : Mapping} {field : String}

/-- A query with the condition that a field holds a tenant. -/
def withTerm (query field tenant : Value) : Value :=
  .map [(.text "bool", .map [
    (.text "must", .list [query]),
    (.text "filter", .list [.map [(.text "term", .map [(field, tenant)])]])])]

/-- A body that is narrowed has its query replaced. -/
lemma scope_of_applies {field tenant : Value} (happlies : applies field tenant = true)
    (hkey : field.isKey = true) (body : Mapping) :
    scope (.map body) field tenant = .ok ((body.erase (.text "query")).setText "query"
      (withTerm ((body.getText? "query").getD matchAll) field tenant)) := by
  have hterm : Value.singleton field tenant = .ok (.map [(field, tenant)]) := by
    rw [Value.singleton, if_pos hkey]
  have hentries : ((Value.map body).orElse (.map [])).toMapping = .ok body := by
    cases body <;> rfl
  rw [scope, hentries]
  show (if applies field tenant then _ else _) = _
  rw [if_pos happlies]
  simp only [narrowed, hterm]
  rfl

lemma applies_of_truthy {field tenant : Value} (hfield : field.truthy = true)
    (htenant : tenant ≠ .null) : applies field tenant = true := by
  rw [applies, hfield]
  cases tenant <;> first | contradiction | rfl

lemma matches_withTerm (query : Value) (field : String) (tenant : Value) :
    Matches other document (withTerm query (.text field) tenant) ↔
      Matches other document query ∧ document.HasField field tenant := by
  have hread : Query.ofValue (withTerm query (.text field) tenant) =
      .both [query, .map [(.text "term", .map [(.text field, tenant)])]] := rfl
  have hterm : Query.ofValue (.map [(.text "term", .map [(.text field, tenant)])]) =
      .term field tenant := rfl
  rw [Matches.iff_of_both hread]
  simp [Matches.iff_of_term hterm]

/-- What a body without a query finds is what the query finds that matches everything. -/
lemma matches_query_iff (body : Mapping) :
    Matches other document ((body.getText? "query").getD matchAll) ↔ Finds other document body := by
  rw [Finds]
  cases body.getText? "query" with
  | none =>
    have hall : Query.ofValue matchAll = .all := rfl
    simp [Matches.iff_of_all hall]
  | some query => simp

/-- Narrowing a body to one tenant. -/
lemma exists_scope_finds (hfield : field ≠ "") {tenant : Value} (htenant : tenant ≠ .null)
    (body : Mapping) :
    ∃ sent, scope (.map body) (.text field) tenant = .ok sent ∧
      sent.erase (.text "query") = body.erase (.text "query") ∧
      ∀ other document, Finds other document sent ↔
        Finds other document body ∧ document.HasField field tenant := by
  have htruthy : (Value.text field).truthy = true := by simp [Value.truthy, hfield]
  refine ⟨_, scope_of_applies (applies_of_truthy htruthy htenant) rfl body, ?_, ?_⟩
  · rw [Mapping.erase_setText_self, Mapping.erase_erase]
  · intro other document
    rw [← matches_query_iff body, ← matches_withTerm]
    simp [Finds]

/-- A body narrowed to several tenants, one after another. -/
def scopeAll (body : Mapping) (scopes : List (String × Value)) : Except Problem Mapping :=
  scopes.foldlM (fun body s => scope (.map body) (.text s.1) s.2) body

/-- Take any search body and any list of fields that have a name, each with a tenant, and narrow the body
to them one after another. Everything in the body but the query stays as it was, and a document is found
if it was found before and has each tenant in its field, however queries of other kinds are matched. -/
theorem narrowed_in_turn (body : Mapping) {scopes : List (String × Value)}
    (hscopes : ∀ s ∈ scopes, s.1 ≠ "" ∧ s.2 ≠ .null) :
    ∃ sent, scopeAll body scopes = .ok sent ∧
      sent.erase (.text "query") = body.erase (.text "query") ∧
      ∀ other document, Finds other document sent ↔
        Finds other document body ∧ ∀ s ∈ scopes, document.HasField s.1 s.2 := by
  induction scopes generalizing body with
  | nil => exact ⟨body, rfl, rfl, by simp⟩
  | cons s scopes ih =>
    obtain ⟨hfield, htenant⟩ := hscopes s List.mem_cons_self
    obtain ⟨once, hscope, hkept, hfinds⟩ := exists_scope_finds hfield htenant body
    obtain ⟨sent, hscopes, hkept', hfinds'⟩ :=
      ih once fun s hs => hscopes s (List.mem_cons_of_mem _ hs)
    refine ⟨sent, ?_, hkept'.trans hkept, ?_⟩
    · rw [scopeAll, List.foldlM_cons, hscope]
      exact hscopes
    · intro other document
      rw [hfinds', hfinds, and_assoc, List.forall_mem_cons]

/-- A query of another kind, narrowed by two fields. -/
theorem narrowed_by_two_fields :
    let titled : Value := .map [(.text "match", .map [(.text "title", .text "map")])]
    ∃ sent,
      scopeAll [(.text "size", .int 3), (.text "query", titled)]
        [("owner", .text "A"), ("group", .text "B")] = .ok sent ∧
      sent.erase (.text "query") = [(.text "size", .int 3)] ∧
      ∀ other document, Finds other document sent ↔ other titled document ∧
        document.HasField "owner" (.text "A") ∧ document.HasField "group" (.text "B") := by
  intro titled
  obtain ⟨sent, hsent, hkept, hfinds⟩ :=
    narrowed_in_turn [(.text "size", .int 3), (.text "query", titled)]
      (by simp : ∀ s ∈ [("owner", Value.text "A"), ("group", .text "B")], s.1 ≠ "" ∧ s.2 ≠ .null)
  refine ⟨sent, hsent, hkept, ?_⟩
  intro other document
  have hquery : Mapping.getText? [(.text "size", .int 3), (.text "query", titled)] "query" =
      some titled := rfl
  have htitled : Query.ofValue titled = .other := rfl
  rw [hfinds, Finds, hquery]
  simp [Matches.iff_of_other htitled]

end Tenancy
end Metastore
