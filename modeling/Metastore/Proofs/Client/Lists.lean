import Metastore.Proofs.Client.Requests
import Metastore.Proofs.Client.Table
import Metastore.Proofs.Services.Readiness

/-!
# Lists of documents

A list of documents that is written to a document store leaves what its documents would leave if
they were put one after another, with one request; if one of them cannot be put, nothing is sent at
all. A table takes the items one after another, and keeps those before the first that fails.
-/

namespace Metastore

open Services (TableHolds tableAccess)

lemma of_mapM_eq_ok {α β : Type} {f : α → Except Problem β} {items : List α} {results : List β}
    (h : items.mapM f = .ok results) {item : α} (hitem : item ∈ items) : ∃ b, f item = .ok b := by
  induction items generalizing results with
  | nil => cases hitem
  | cons first rest ih =>
    rw [List.mapM_cons] at h
    obtain ⟨b, hfirst, hmore⟩ := except_bind_eq_ok.mp h
    obtain ⟨more, hrest, -⟩ := except_bind_eq_ok.mp hmore
    rcases List.mem_cons.mp hitem with rfl | hmem
    · exact ⟨b, hfirst⟩
    · exact ih hrest hmem

namespace Client

variable {client : Client} {target : Target} {documents : Documents} {command : Command}
  {index tenant id document : Value} {elements : List Value} {lines : List BulkLine}
  {request : DocumentRequest} {s : Services}

/-- The puts of the documents in a list, one after another. -/
def puts (index tenant : Value) (elements : List Value) : List (Event Operation) :=
  (listed index tenant elements).map fun write => .perform (.put write)

/-! ### Document stores -/

lemma requests_of_target (htarget : client.delegate.target? = some target) (command : Command) :
    client.requests command =
      (client.documentRequest? client.tenantField command).toList.map (.document target) := by
  rw [requests, tenantField]
  cases hdelegate : client.delegate with
  | callerStore registry field =>
    rw [hdelegate] at htarget
    obtain rfl : .callerStore = target := Option.some.inj htarget
    rfl
  | cluster backend =>
    rw [hdelegate] at htarget
    obtain rfl : .cluster = target := Option.some.inj htarget
    rfl
  | table region search field =>
    rw [hdelegate] at htarget
    cases htarget

/-- A command that leads to a request leaves what the request leaves. -/
lemma perform_of_request (htarget : client.delegate.target? = some target)
    (h : client.documentRequest? client.tenantField command = some request) (s : Services) :
    command.perform client s = (target.call request s).2 := by
  have hopen : command ≠ .close := by
    rintro rfl
    cases h
  rw [Command.perform, (client.run_follows hopen s).services_eq, requests_of_target htarget, h]
  exact (Services.follows_single id (Request.document target request) s).services_eq.symm

/-- What a line has of an element. -/
lemma lineOf_eq_ok {field element : Value} {line : BulkLine}
    (h : Target.lineOf field index tenant element = .ok line) :
    ∃ id document entries, element.pair = .ok (id, document) ∧
      Tenancy.stamp document field tenant = .ok entries ∧ line = ⟨index, id, entries⟩ := by
  obtain ⟨⟨id, document⟩, hpair, hstamped⟩ := except_bind_eq_ok.mp h
  obtain ⟨entries, hstamp, hpure⟩ := except_bind_eq_ok.mp hstamped
  exact ⟨id, document, entries, hpair, hstamp, (Except.ok.inj hpure).symm⟩

lemma perform_put (htarget : client.delegate.target? = some target) {entries : Mapping}
    (hstamp : Tenancy.stamp document client.tenantField (client.tenant tenant) = .ok entries)
    (s : Services) :
    Operation.perform client (.put ⟨index, id, document, tenant⟩) s =
      (target.call (.put index id entries) s).2 := by
  show Command.perform client (.operate (.put ⟨index, id, document, tenant⟩)) s = _
  apply perform_of_request htarget
  rw [documentRequest?, hstamp]
  rfl

/-- Documents that are put one after another leave what a list of them leaves, whether the store is
ready or not. -/
lemma holds_after_puts (htarget : client.delegate.target? = some target)
    (hlines : elements.mapM (Target.lineOf client.tenantField index (client.tenant tenant)) =
      .ok lines) (hs : target.Holds documents s) :
    (s.Ready target.access →
      target.Holds (Requests.respond (DocumentRequest.bulk lines) documents).2
        (client.after s (puts index tenant elements))) ∧
      (¬ s.Ready target.access →
        target.Holds documents (client.after s (puts index tenant elements))) := by
  induction elements generalizing documents lines s with
  | nil =>
    obtain rfl : [] = lines := Except.ok.inj hlines
    exact ⟨fun _ => hs, fun _ => hs⟩
  | cons element rest ih =>
    rw [List.mapM_cons] at hlines
    obtain ⟨line, hline, hmore⟩ := except_bind_eq_ok.mp hlines
    obtain ⟨more, hrest, hpure⟩ := except_bind_eq_ok.mp hmore
    obtain rfl : line :: more = lines := Except.ok.inj hpure
    obtain ⟨id, document, entries, hpair, hstamp, rfl⟩ := lineOf_eq_ok hline
    have hstep : client.after s (puts index tenant (element :: rest)) =
        client.after (target.call (.put index id entries) s).2 (puts index tenant rest) := by
      rw [← perform_put htarget hstamp s, puts, listed, hpair]
      rfl
    have hready := Target.ready_call hs (.put index id entries)
    obtain ⟨hanswered, hrefused⟩ := Target.holds_call hs (.put index id entries) rfl
    rw [hstep, ← hready]
    constructor
    · intro hagain
      exact (ih hrest (hanswered (hready.mp hagain))).1 hagain
    · intro hnot
      exact (ih hrest (hrefused (mt hready.mpr hnot))).2 hnot

lemma perform_bulk (htarget : client.delegate.target? = some target)
    (hlines : elements.mapM (Target.lineOf client.tenantField index (client.tenant tenant)) =
      .ok lines) (hne : elements ≠ []) (s : Services) :
    (client.bulk index (.list elements) tenant s).2 = (target.call (.bulk lines) s).2 := by
  show Command.perform client (.operate (.bulk index (.list elements) tenant)) s = _
  apply perform_of_request htarget
  have hboth : (Value.list elements).elements >>=
      List.mapM (Target.lineOf client.tenantField index (client.tenant tenant)) =
        .ok lines := hlines
  rw [documentRequest?, hboth]
  cases elements with
  | nil => exact absurd rfl hne
  | cons element rest =>
    rw [List.mapM_cons] at hlines
    obtain ⟨line, -, hmore⟩ := except_bind_eq_ok.mp hlines
    obtain ⟨more, -, hpure⟩ := except_bind_eq_ok.mp hmore
    obtain rfl : line :: more = lines := Except.ok.inj hpure
    rfl

lemma bulk_of_target (htarget : client.delegate.target? = some target)
    (index documents tenant : Value) (s : Services) :
    ∃ surface, client.bulk index documents tenant s =
      ((target.bulk client.tenantField index documents (client.tenant tenant) s).1.mapError surface,
        (target.bulk client.tenantField index documents (client.tenant tenant) s).2) := by
  rw [Client.bulk, tenantField]
  cases hdelegate : client.delegate with
  | callerStore registry field =>
    rw [hdelegate] at htarget
    obtain rfl : .callerStore = target := Option.some.inj htarget
    refine ⟨fun failure => failure, Prod.ext ?_ rfl⟩
    show (Target.callerStore.bulk field index documents (client.tenant tenant) s).1 =
      (Target.callerStore.bulk field index documents (client.tenant tenant) s).1.mapError _
    cases (Target.callerStore.bulk field index documents (client.tenant tenant) s).1 <;> rfl
  | cluster backend =>
    rw [hdelegate] at htarget
    obtain rfl : .cluster = target := Option.some.inj htarget
    exact ⟨Failure.surface, rfl⟩
  | table region search field =>
    rw [hdelegate] at htarget
    cases htarget

lemma bulk_nil (htarget : client.delegate.target? = some target) (index tenant : Value)
    (s : Services) :
    client.bulk index (.list []) tenant s = (.ok (Target.bulkAnswer []), s) := by
  obtain ⟨surface, hbulk⟩ := bulk_of_target htarget index (.list []) tenant s
  rw [hbulk]
  rfl

/-- All elements of a list are read before anything is sent. -/
lemma bulk_unread (htarget : client.delegate.target? = some target) {problem : Problem}
    (h : elements.mapM (Target.lineOf client.tenantField index (client.tenant tenant)) =
      .error problem) (s : Services) :
    ∃ failure, client.bulk index (.list elements) tenant s = (.error failure, s) := by
  obtain ⟨surface, hbulk⟩ := bulk_of_target htarget index (.list elements) tenant s
  have hread : target.bulk client.tenantField index (.list elements) (client.tenant tenant) s =
      (.error (.of problem), s) := by
    have helements : (Value.list elements).elements = .ok elements := rfl
    rw [Target.bulk, Services.lift_bind_of_ok helements, Services.lift_bind_of_error h]
  refine ⟨surface (.of problem), ?_⟩
  rw [hbulk, hread]
  rfl

/-- Whether a write fails wherever it is made. -/
def Write.IsRejected (client : Client) (write : Write) : Prop :=
  ∀ s answer, (client.put write.index write.id write.document write.tenant s).1 ≠ .ok answer

/-- Where its document can be stamped, a write succeeds on an empty store that is ready. -/
lemma not_isRejected_of_stamp (htarget : client.delegate.target? = some target) {entries : Mapping}
    (hstamp : Tenancy.stamp document client.tenantField (client.tenant tenant) = .ok entries) :
    ¬ Write.IsRejected client ⟨index, id, document, tenant⟩ := by
  obtain ⟨s, hs, hready⟩ : ∃ s, target.Holds [] s ∧ s.Ready target.access := by
    cases target with
    | callerStore =>
      refine ⟨{ callerStore := some { contents := [] } }, ?_, none, rfl, by simp⟩
      rintro service ⟨⟩
      exact ⟨rfl, rfl⟩
    | cluster =>
      let transport : Transport := ⟨.null, ⟨.https, "h", 443⟩, .anonymous, none, 20, false⟩
      refine ⟨{ cluster := some { transport } }, ?_, none, rfl, by simp⟩
      rintro service ⟨⟩
      exact ⟨rfl, rfl⟩
  have hwanted : Target.putting [] client.tenantField index id document (client.tenant tenant) =
      .ok (Documents.put [] index id (.map entries)) :=
    except_bind_eq_ok.mpr ⟨entries, hstamp, rfl⟩
  obtain ⟨answer, after, hput, -⟩ :=
    (put_changes htarget hs index id document tenant).done_of_ready hwanted hready
  intro hrejected
  apply hrejected s answer
  show (client.put index id document tenant s).1 = _
  rw [hput]

/-- An element that does not come apart, or whose document cannot be put, keeps a list from being
read. -/
lemma exists_unread (htarget : client.delegate.target? = some target) {element : Value}
    (hmem : element ∈ elements)
    (h : (∃ problem, element.pair = .error problem) ∨ ∃ id document,
      element.pair = .ok (id, document) ∧ Write.IsRejected client ⟨index, id, document, tenant⟩) :
    ∃ problem, elements.mapM (Target.lineOf client.tenantField index (client.tenant tenant)) =
      .error problem := by
  cases hlines : elements.mapM (Target.lineOf client.tenantField index (client.tenant tenant)) with
  | error problem => exact ⟨problem, rfl⟩
  | ok lines =>
    obtain ⟨line, hline⟩ := of_mapM_eq_ok hlines hmem
    obtain ⟨id, document, entries, hpair, hstamp, -⟩ := lineOf_eq_ok hline
    rcases h with ⟨problem, hproblem⟩ | ⟨id', document', hpair', hrejected⟩
    · rw [hpair] at hproblem
      cases hproblem
    · rw [hpair] at hpair'
      obtain ⟨rfl, rfl⟩ := Prod.mk.inj (Except.ok.inj hpair')
      exact absurd hrejected (not_isRejected_of_stamp htarget hstamp)

/-! ### Tables -/

/-- Whether the documents of all elements are put one after another, and what is answered each time.
-/
inductive PutsInTurn (client : Client) (index tenant : Value) :
    List Value → Services → List Value → Services → Prop where
  | nil (s : Services) : PutsInTurn client index tenant [] s [] s
  | cons {element id document answer : Value} {rest answers : List Value}
      {s between after : Services} (hpair : element.pair = .ok (id, document))
      (hput : client.put index id document tenant s = (.ok answer, between))
      (hrest : PutsInTurn client index tenant rest between answers after) :
      PutsInTurn client index tenant (element :: rest) s (answer :: answers) after

/-- How writing a list in turn ends: there are no more elements, the next one does not come apart,
or its document cannot be put. -/
inductive EndsTurn (client : Client) (index tenant : Value) :
    List Value → Services → Except Failure Unit → Services → Prop where
  | done (s : Services) : EndsTurn client index tenant [] s (.ok ()) s
  | unpaired {element : Value} {problem : Problem} (hpair : element.pair = .error problem)
      (rest : List Value) (s : Services) :
      EndsTurn client index tenant (element :: rest) s (.error (.of problem)) s
  | failed {element id document : Value} {failure : Failure} {s after : Services}
      (hpair : element.pair = .ok (id, document))
      (hput : client.put index id document tenant s = (.error failure, after)) (rest : List Value) :
      EndsTurn client index tenant (element :: rest) s (.error failure) after

/-- The items that are kept after those of some writes were put. -/
def itemsAfter (client : Client) (writes : List Write) (items : Items) : Items :=
  writes.foldl (fun items write =>
    match client.itemOf write with
    | .ok item => items.put write.index item
    | .error _ => items) items

variable {region field : Value} {search : ClusterBackend} {items : Items}
  {before rest answers : List Value} {between after : Services} {result : Except Failure Unit}

lemma PutsInTurn.length_eq (h : client.PutsInTurn index tenant before s answers between) :
    answers.length = before.length := by
  induction h with
  | nil s => rfl
  | cons hpair hput hrest ih => simp [ih]

lemma PutsInTurn.holds (hdelegate : client.delegate = .table region search field)
    (h : client.PutsInTurn index tenant before s answers between) (hs : TableHolds items s) :
    TableHolds (client.itemsAfter (listed index tenant before) items) between := by
  induction h generalizing items with
  | nil s => exact hs
  | @cons element id document answer rest answers s between after hpair hput hrest ih =>
    have hchanges := put_changes_of_table hdelegate hs ⟨index, id, document, tenant⟩
    change Changes _ _ _ _ _ (client.put index id document tenant s) at hchanges
    rw [hput] at hchanges
    rw [listed, hpair]
    cases hchanges with
    | done hwanted hafter haccess hkept =>
      obtain ⟨item, hitem, hkeep⟩ := except_bind_eq_ok.mp hwanted
      obtain rfl := Except.ok.inj hkeep
      have hrest := ih hafter
      rw [itemsAfter, List.foldl_cons, hitem]
      exact hrest

/-- A document that cannot be put changes nothing that is kept. -/
lemma EndsTurn.holds (hdelegate : client.delegate = .table region search field)
    (h : client.EndsTurn index tenant rest s result after) (hs : TableHolds items s) :
    TableHolds items after := by
  cases h with
  | done => exact hs
  | unpaired hpair rest => exact hs
  | @failed element id document failure _ _ hpair hput rest =>
    have hchanges := put_changes_of_table hdelegate hs ⟨index, id, document, tenant⟩
    change Changes _ _ _ _ _ (client.put index id document tenant s) at hchanges
    rw [hput] at hchanges
    cases hchanges with
    | failed hafter haccess hwhy => exact hafter

lemma PutsInTurn.putAll (hdelegate : client.delegate = .table region search field)
    (h : client.PutsInTurn index tenant before s answers between) (rest : List Value) :
    Item.putAll field index (client.tenant tenant) (before ++ rest) s =
      ((Item.putAll field index (client.tenant tenant) rest between).1.map (answers ++ ·),
        (Item.putAll field index (client.tenant tenant) rest between).2) := by
  induction h with
  | nil s =>
    rw [List.nil_append]
    rcases Item.putAll field index (client.tenant tenant) rest s with ⟨failure | more, after⟩
    · rfl
    · rfl
  | cons hpair hput hrest ih =>
    rw [put_of_table hdelegate] at hput
    rw [List.cons_append, Item.putAll_cons hpair, Action.bind_of_ok hput, Action.map_apply, ih]
    rcases Item.putAll field index (client.tenant tenant) rest _ with ⟨failure | more, after⟩
    · rfl
    · rfl

lemma EndsTurn.putAll (hdelegate : client.delegate = .table region search field)
    (h : client.EndsTurn index tenant rest s result after) :
    Item.putAll field index (client.tenant tenant) rest s = (result.map fun _ => [], after) := by
  cases h with
  | done => rfl
  | unpaired hpair rest => exact Item.putAll_cons_of_error hpair rest s
  | failed hpair hput rest =>
    rw [put_of_table hdelegate] at hput
    rw [Item.putAll_cons hpair, Action.bind_of_error hput]
    rfl

/-- Every list is put in turn up to where this ends. -/
lemma exists_putsInTurn (client : Client) (index tenant : Value) (elements : List Value)
    (s : Services) :
    ∃ before rest answers between result after, elements = before ++ rest ∧
      client.PutsInTurn index tenant before s answers between ∧
      client.EndsTurn index tenant rest between result after := by
  induction elements generalizing s with
  | nil => exact ⟨[], [], [], s, _, _, rfl, .nil s, .done s⟩
  | cons element more ih =>
    cases hpair : element.pair with
    | error problem => exact ⟨[], _, [], s, _, _, rfl, .nil s, .unpaired hpair more s⟩
    | ok parts =>
      obtain ⟨id, document⟩ := parts
      rcases hput : client.put index id document tenant s with ⟨failure | answer, between⟩
      · exact ⟨[], _, [], s, _, _, rfl, .nil s, .failed hpair hput more⟩
      · obtain ⟨before, rest, answers, last, result, after, rfl, hputs, hends⟩ := ih between
        exact ⟨element :: before, rest, _, last, _, _, rfl, .cons hpair hput hputs, hends⟩

lemma bulk_eq_of_turn (hdelegate : client.delegate = .table region search field)
    (hputs : client.PutsInTurn index tenant before s answers between)
    (hends : client.EndsTurn index tenant rest between result after) :
    client.bulk index (.list (before ++ rest)) tenant s =
      (result.map fun _ => Target.bulkAnswer answers, after) := by
  have helements : (Value.list (before ++ rest)).elements = .ok (before ++ rest) := rfl
  rw [bulk_of_table hdelegate, Item.bulk_of_elements helements, Action.map_apply,
    hputs.putAll hdelegate, hends.putAll hdelegate]
  cases result with
  | error failure => rfl
  | ok _ => simp [Except.map]

/-! ### Both kinds of stores -/

/-- What writing a list of documents comes to on a document store. That the field for the tenant can
be a key of a mapping matters only where documents are to be taken. -/
structure WrittenAtOnce (client : Client) (target : Target) (index tenant : Value)
    (elements : List Value) (s : Services) : Prop where
  /-- For no documents nothing is sent. -/
  nothing : elements = [] →
    client.bulk index (.list elements) tenant s = (.ok (Target.bulkAnswer []), s)
  /-- Identifiers with mappings are sent with one request. -/
  asked : client.tenantField.isKey = true → elements ≠ [] →
    (∀ element ∈ elements, ∃ id entries, element.pair = .ok (id, .map entries)) →
    ∃ lines, target.asked (client.bulk index (.list elements) tenant s).2 =
      (target.asked s).map (· ++ [.bulk lines])
  /-- The store holds what it would hold if they were put one after another. -/
  holds : client.tenantField.isKey = true →
    (∀ element ∈ elements, ∃ id entries, element.pair = .ok (id, .map entries)) →
    ∀ documents, target.Holds documents s →
      (∃ held, target.Holds held (client.bulk index (.list elements) tenant s).2 ∧
        target.Holds held (client.after s (puts index tenant elements))) ∧
      (s.Ready target.access →
        ∃ answer, (client.bulk index (.list elements) tenant s).1 = .ok answer)
  /-- Nothing is sent either if an element does not come apart or its document cannot be put. -/
  refused : (∃ element ∈ elements, (∃ problem, element.pair = .error problem) ∨
      ∃ id document, element.pair = .ok (id, document) ∧
        Write.IsRejected client ⟨index, id, document, tenant⟩) →
    ∃ failure, client.bulk index (.list elements) tenant s = (.error failure, s)

/-- What writing a list of documents comes to on a table: the documents before the first that cannot
be put are put in turn, and their items are what is kept. -/
def WrittenInTurn (client : Client) (index tenant : Value) (elements : List Value) (s : Services) :
    Prop :=
  ∃ before rest answers between result after, elements = before ++ rest ∧
    client.PutsInTurn index tenant before s answers between ∧
    client.EndsTurn index tenant rest between result after ∧
    client.bulk index (.list elements) tenant s =
      (result.map fun _ => Target.bulkAnswer answers, after) ∧
    answers.length = before.length ∧
    ∀ items, TableHolds items s →
      TableHolds (client.itemsAfter (listed index tenant before) items) after

lemma exists_lines_of_mappings (hkey : client.tenantField.isKey = true)
    (h : ∀ element ∈ elements, ∃ id entries, element.pair = .ok (id, .map entries))
    (index tenant : Value) :
    ∃ lines, elements.mapM (Target.lineOf client.tenantField index (client.tenant tenant)) =
      .ok lines := by
  apply Target.exists_lines
  intro element hmem
  obtain ⟨id, entries, hpair⟩ := h element hmem
  exact ⟨id, _, hpair, Tenancy.exists_stamp hkey entries _⟩

lemma holds_after_bulk (htarget : client.delegate.target? = some target)
    (hlines : elements.mapM (Target.lineOf client.tenantField index (client.tenant tenant)) =
      .ok lines) (hs : target.Holds documents s) :
    ∃ held, target.Holds held (client.bulk index (.list elements) tenant s).2 ∧
      target.Holds held (client.after s (puts index tenant elements)) := by
  by_cases hne : elements = []
  · subst hne
    rw [bulk_nil htarget]
    exact ⟨documents, hs, hs⟩
  · rw [perform_bulk htarget hlines hne]
    obtain ⟨hanswered, hrefused⟩ := Target.holds_call hs (.bulk lines) rfl
    obtain ⟨hputs, hnoputs⟩ := holds_after_puts htarget hlines hs
    by_cases hready : s.Ready target.access
    · exact ⟨_, hanswered hready, hputs hready⟩
    · exact ⟨_, hrefused hready, hnoputs hready⟩

lemma writtenAtOnce (htarget : client.delegate.target? = some target) (index tenant : Value)
    (elements : List Value) (s : Services) :
    client.WrittenAtOnce target index tenant elements s := by
  constructor
  · rintro rfl
    exact bulk_nil htarget index tenant s
  · intro hkey hne hpairs
    obtain ⟨lines, hlines⟩ := exists_lines_of_mappings hkey hpairs index tenant
    refine ⟨lines, ?_⟩
    rw [perform_bulk htarget hlines hne, Target.asked_call]
  · intro hkey hpairs documents hs
    obtain ⟨lines, hlines⟩ := exists_lines_of_mappings hkey hpairs index tenant
    refine ⟨holds_after_bulk htarget hlines hs, ?_⟩
    intro hready
    have hwanted : Target.puttingAll documents client.tenantField index (.list elements)
        (client.tenant tenant) = .ok (Requests.respond (DocumentRequest.bulk lines) documents).2 :=
      except_bind_eq_ok.mpr ⟨elements, rfl, except_bind_eq_ok.mpr ⟨lines, hlines, rfl⟩⟩
    obtain ⟨answer, after, hbulk, -⟩ :=
      (bulk_changes htarget hs index (.list elements) tenant).done_of_ready hwanted hready
    exact ⟨answer, by rw [hbulk]⟩
  · rintro ⟨element, hmem, hbad⟩
    obtain ⟨problem, hunread⟩ := exists_unread htarget hmem hbad
    exact bulk_unread htarget hunread s

lemma writtenInTurn (hdelegate : client.delegate = .table region search field)
    (index tenant : Value) (elements : List Value) (s : Services) :
    client.WrittenInTurn index tenant elements s := by
  obtain ⟨before, rest, answers, between, result, after, rfl, hputs, hends⟩ :=
    exists_putsInTurn client index tenant elements s
  refine ⟨before, rest, answers, between, result, after, rfl, hputs, hends,
    bulk_eq_of_turn hdelegate hputs hends, hputs.length_eq, ?_⟩
  intro items hs
  exact hends.holds hdelegate (hputs.holds hdelegate hs)

/-- Writing a list of documents is putting them one after another: on a document store with one
request, or not at all, and on a table up to the first that cannot be put. -/
theorem bulk_as_puts (client : Client) (index tenant : Value) (elements : List Value)
    (s : Services) :
    (∀ target, client.delegate.target? = some target →
      client.WrittenAtOnce target index tenant elements s) ∧
    (client.delegate.target? = none → client.WrittenInTurn index tenant elements s) := by
  constructor
  · intro target htarget
    exact writtenAtOnce htarget index tenant elements s
  · intro hnone
    cases hdelegate : client.delegate with
    | callerStore registry field =>
      rw [hdelegate] at hnone
      cases hnone
    | cluster backend =>
      rw [hdelegate] at hnone
      cases hnone
    | table region search field => exact writtenInTurn hdelegate index tenant elements s

/-- Of two documents with one identifier, both clients keep the second; an element that does not
come apart keeps everything from the store, and what comes after it from the table. -/
theorem bulk_as_puts_duplicates :
    let documents : List Value := [
      .list [.text "d", .map [(.text "x", .int 1)]], .list [.text "d", .map [(.text "x", .int 2)]]]
    let transport : Transport := ⟨.null, ⟨.https, "h", 443⟩, .anonymous, none, 20, false⟩
    let onStore : Client := ⟨.callerStore .null (.text "tenant"), true⟩
    let onTable : Client := ⟨.table (.text "eu") ⟨transport, .null⟩ .null, true⟩
    let s : Services := {
      chains := [{ sources := [{ method := "env", accessKey := some "key" }] }]
      callerStore := some { contents := [] }
      table := some { region := .text "eu", credentials := ⟨⟨0⟩⟩, builtElevated := false } }
    (∃ held,
      Target.callerStore.Holds held
        (onStore.bulk (.text "i") (.list documents) (.text "A") s).2 ∧
      Target.callerStore.Holds held
        (onStore.after s (puts (.text "i") (.text "A") documents)) ∧
      held = [((.text "i", .text "d"), .map [(.text "x", .int 2), (.text "tenant", .text "A")])]) ∧
    (∃ failure, onStore.bulk (.text "i") (.list (documents ++ [.int 3])) (.text "A") s =
      (.error failure, s)) ∧
    onTable.WrittenInTurn (.text "i") (.text "A") (documents ++ [.int 3]) s := by
  intro documents transport onStore onTable s
  have hs : Target.callerStore.Holds [] s := by
    rintro service ⟨⟩
    exact ⟨rfl, rfl⟩
  have hpairs : ∀ element ∈ documents, ∃ id entries, element.pair = .ok (id, .map entries) := by
    intro element hmem
    simp only [documents, List.mem_cons, List.not_mem_nil, or_false] at hmem
    rcases hmem with rfl | rfl
    · exact ⟨_, _, rfl⟩
    · exact ⟨_, _, rfl⟩
  have hwritten := (bulk_as_puts onStore (.text "i") (.text "A") documents s).1 .callerStore rfl
  have hrefused :=
    (bulk_as_puts onStore (.text "i") (.text "A") (documents ++ [.int 3]) s).1 .callerStore rfl
  refine ⟨?_, ?_, (bulk_as_puts onTable (.text "i") (.text "A") (documents ++ [.int 3]) s).2 rfl⟩
  · obtain ⟨⟨held, hbulk, hputs⟩, -⟩ := hwritten.holds rfl hpairs [] hs
    obtain ⟨rfl, -⟩ := hbulk _ rfl
    exact ⟨_, hbulk, hputs, by decide +kernel⟩
  · apply hrefused.refused
    exact ⟨.int 3, by simp, .inl ⟨_, rfl⟩⟩

end Client
end Metastore
