import Metastore.Proofs.Config.Overlay
import Metastore.Proofs.Config.Updates

/-!
# Reading the configuration in use

A read keeps its default where there is no value, and puts mappings that are missing on the way to it. So
reads write; but nothing that is neither null nor a mapping is touched by any of them (`Config.Keeps`), and
what a read has given once, every later read of the same path gives again (`Config.reads_stable`).

A read with a default has an answer where nothing but mappings stands on the way to the value
(`Config.read_answered`). Elsewhere the default cannot be kept, and the read fails although there is nothing
to be read (`Config.read_unanswered`).
-/

namespace Metastore

namespace Value

variable {v v' w new : Value} {path : Path} {keys : List Value}

/-- Whether a value is neither null nor a mapping: reads put nothing in its place, and nothing into it. -/
def IsSettled (v : Value) : Prop := v.isNull = false ∧ v.isMap = false

instance : DecidablePred IsSettled := fun _ => inferInstanceAs (Decidable (_ ∧ _))

/-- A path is a path of keys which are texts. -/
lemma at?_eq_atKeys? (v : Value) (path : Path) : v.at? path = v.atKeys? (path.map .text) := by
  induction path generalizing v with
  | nil => simp
  | cons key rest ih =>
    cases v with
    | map entries =>
      rw [List.map_cons, at?_map_cons, atKeys?_map_cons, Mapping.getText?]
      simp only [ih]
    | _ => rfl

/-- Where a value is set in the place of null or of nothing, every settled value stays. -/
lemma atKeys?_insertAt_of_null (h : v.insertAt path new = .ok v')
    (hnull : ((v.at? path).getD .null).isNull = true) (hw : w.IsSettled) (hat : v.atKeys? keys = some w) :
    v'.atKeys? keys = some w := by
  induction path generalizing v v' keys with
  | nil =>
    -- the value that is replaced is null, and nothing settled is below it
    cases v with
    | null =>
      cases keys with
      | nil =>
        obtain rfl : .null = w := by simpa using hat
        cases hw.1
      | cons key rest => cases hat
    | _ => cases hnull
  | cons key rest ih =>
    obtain ⟨entries, inner, rfl, hinner, rfl⟩ := insertAt_cons_eq_ok h
    cases keys with
    | nil =>
      obtain rfl : Value.map entries = w := by simpa using hat
      cases hw.2
    | cons first more =>
      rw [atKeys?_map_cons] at hat ⊢
      rw [Mapping.setText, Mapping.get?_set]
      obtain ⟨x, hx, hmore⟩ := Option.bind_eq_some_iff.mp hat
      by_cases hkey : (Value.text key).isSameKey first = true
      · have hfound : entries.getText? key = some x := (Mapping.get?_congr hkey entries).trans hx
        rw [at?_map_cons, hfound, Option.bind_some] at hnull
        rw [child, hfound, Option.getD_some] at hinner
        rw [if_pos hkey, Option.bind_some]
        exact ih hinner hnull hmore
      · rw [if_neg hkey]
        exact hat

end Value

namespace Config

variable {c after : Config} {path : Path} {default v : Value}

/-! ### One read -/

/-- Whether every settled value is where it was. -/
def Keeps (before after : Config) : Prop :=
  ∀ keys v, v.IsSettled → before.toValue.atKeys? keys = some v → after.toValue.atKeys? keys = some v

lemma Keeps.refl (c : Config) : Keeps c c := fun _ _ _ h => h

lemma Keeps.trans {a b c : Config} (hab : Keeps a b) (hbc : Keeps b c) : Keeps a c :=
  fun keys v hv h => hbc keys v hv (hab keys v hv h)

lemma lookup_eq_iff (hv : v.isNull = false) : c.lookup path = v ↔ c.toValue.at? path = some v := by
  rw [lookup]
  cases c.toValue.at? path with
  | none =>
    refine iff_of_false ?_ (by simp)
    rintro rfl
    cases hv
  | some w => simp

/-- A settled value is read where it stood. -/
lemma Keeps.lookup (h : Keeps c after) (hv : v.IsSettled) (hlookup : c.lookup path = v) :
    after.lookup path = v := by
  rw [lookup_eq_iff hv.1, Value.at?_eq_atKeys?] at hlookup ⊢
  exact h _ v hv hlookup

/-- The ways in which a read can end: with what it gives, and with the configuration that it leaves. -/
inductive Reading (path : Path) (default : Value) (c : Config) : Except Problem Value × Config → Prop
  | found (hfound : (c.lookup path).isNull = false) : Reading path default c (.ok (c.lookup path), c)
  | missing (hmissing : (c.lookup path).isNull = true) (hdefault : default.isNull = true) :
    Reading path default c (.ok .null, c)
  | kept {after : Config} (hmissing : (c.lookup path).isNull = true) (hdefault : default.isNull = false)
      (hset : c.toValue.insertAt path default = .ok after.toValue) :
    Reading path default c (.ok default, after)
  | refused {problem : Problem} (hmissing : (c.lookup path).isNull = true)
      (hdefault : default.isNull = false) (hset : c.toValue.insertAt path default = .error problem) :
    Reading path default c (.error problem, c)

namespace Use

lemma reading_read (hpath : path ≠ []) (default : Value) (c : Config) :
    Reading path default c (read path default c) := by
  rw [read]
  cases hfound : (c.lookup path).isNull with
  | false => exact .found hfound
  | true =>
    cases hdefault : default.isNull with
    | true => exact .missing hfound hdefault
    | false =>
      rcases set_cases hpath default c with ⟨after, hinsert, hset⟩ | ⟨problem, hinsert, hset⟩
      · simp only [Bool.not_true, Bool.false_eq_true, if_false, Action.bind_of_ok hset]
        exact .kept hfound hdefault hinsert
      · simp only [Bool.not_true, Bool.false_eq_true, if_false, Action.bind_of_error hset]
        exact .refused hfound hdefault hinsert

lemma read_of_found (h : (c.lookup path).isNull = false) (default : Value) :
    read path default c = (.ok (c.lookup path), c) := by
  rw [read]
  simp [h]

/-- No read changes or removes a settled value. -/
lemma read_keeps (hpath : path ≠ []) (default : Value) (c : Config) : Keeps c (read path default c).2 := by
  have hreading := reading_read hpath default c
  generalize read path default c = outcome at hreading ⊢
  cases hreading with
  | found | missing | refused => exact .refl c
  | kept hmissing hdefault hset =>
    intro keys v hv hat
    exact Value.atKeys?_insertAt_of_null hset hmissing hv hat

/-- What a read gives is there afterwards. -/
lemma lookup_of_read (hpath : path ≠ []) (hgives : (read path default c).1 = .ok v) (hv : v.isNull = false) :
    (read path default c).2.lookup path = v := by
  have hreading := reading_read hpath default c
  generalize read path default c = outcome at hreading hgives ⊢
  cases hreading with
  | found hfound => exact Except.ok.inj hgives
  | missing hmissing hdefault =>
    obtain rfl := Except.ok.inj hgives
    cases hv
  | kept hmissing hdefault hset =>
    rw [lookup, Value.at?_insertAt hset, Option.getD_some]
    exact Except.ok.inj hgives
  | refused hmissing hdefault hset => cases hgives

end Use

/-! ### Runs of reads -/

/-- A read that is asked for: the path as it is written, and the default. -/
structure ReadRequest where
  text : String
  default : Value

/-- Reads what is asked for. -/
def ReadRequest.read (request : ReadRequest) : Use Value := Use.read (.ofText request.text) request.default

/-- The configuration after reads, whether they gave something or failed. -/
def afterReads (c : Config) (requests : List ReadRequest) : Config :=
  requests.foldl (fun c request => (request.read c).2) c

/-- What reads give, one after another. -/
def answers : Config → List ReadRequest → List (Except Problem Value)
  | _, [] => []
  | c, request :: rest => (request.read c).1 :: answers (request.read c).2 rest

lemma afterReads_append (c : Config) (before more : List ReadRequest) :
    c.afterReads (before ++ more) = (c.afterReads before).afterReads more := by
  simp [afterReads]

/-- A read gives what it does in the configuration after the reads before it. -/
lemma getElem?_answers (c : Config) (requests : List ReadRequest) (i : ℕ) :
    (c.answers requests)[i]? =
      requests[i]?.map fun request => (request.read (c.afterReads (requests.take i))).1 := by
  induction requests generalizing c i with
  | nil => simp [answers]
  | cons request rest ih =>
    cases i with
    | zero => rfl
    | succ i =>
      simp only [answers, List.getElem?_cons_succ, ih]
      rfl

lemma afterReads_keeps (c : Config) (requests : List ReadRequest) : Keeps c (c.afterReads requests) := by
  induction requests generalizing c with
  | nil => exact .refl c
  | cons request rest ih => exact (Use.read_keeps (ofText_ne_nil _) _ c).trans (ih _)

/-- From one point of a run to a later one, every settled value stays. -/
lemma keeps_take (c : Config) (requests : List ReadRequest) {i j : ℕ} (hij : i ≤ j) :
    Keeps (c.afterReads (requests.take i)) (c.afterReads (requests.take j)) := by
  obtain ⟨more, hmore⟩ := List.take_prefix_take_left (l := requests) hij
  rw [← hmore, afterReads_append]
  exact afterReads_keeps _ more

/-- What a read has given once, if it is settled, every later read of the same path gives again, whatever its
default; and no read changes or removes a settled value, wherever it stands. -/
theorem reads_stable (c : Config) (requests : List ReadRequest) :
    (∀ (i j : ℕ) (v : Value), i < j → requests[j]?.map ReadRequest.text = requests[i]?.map ReadRequest.text →
      (c.answers requests)[i]? = some (.ok v) → v.IsSettled → (c.answers requests)[j]? = some (.ok v)) ∧
      ∀ i j, i ≤ j → Keeps (c.afterReads (requests.take i)) (c.afterReads (requests.take j)) := by
  refine ⟨fun i j v hij htext hanswer hv => ?_, fun i j hij => keeps_take c requests hij⟩
  rw [getElem?_answers] at hanswer ⊢
  obtain ⟨first, hfirst, hgives⟩ := Option.map_eq_some_iff.mp hanswer
  rw [hfirst, Option.map_some] at htext
  obtain ⟨later, hlater, hsame⟩ := Option.map_eq_some_iff.mp htext
  -- the value stands at its path after the first read, and stays there up to the later one
  have hthere : (c.afterReads (requests.take (i + 1))).lookup (.ofText first.text) = v := by
    have hafter : c.afterReads (requests.take (i + 1)) = (first.read (c.afterReads (requests.take i))).2 := by
      rw [List.take_add_one, hfirst, afterReads_append]
      rfl
    rw [hafter]
    exact Use.lookup_of_read (ofText_ne_nil first.text) hgives hv.1
  have hstays := (keeps_take c requests hij).lookup hv hthere
  rw [hlater, Option.map_some, ReadRequest.read, hsame, Use.read_of_found (hstays ▸ hv.1), hstays]

/-- A default is kept in a mapping that is put there for it; a read through it fails, the mapping is given by
another read, and the default is read again whatever the later one is. -/
theorem reads_stable_nested :
    let c : Config := ⟨[(.text "n", .null)]⟩
    let requests : List ReadRequest :=
      [⟨"n", .int 1⟩, ⟨"a.b", .int 2⟩, ⟨"a.b.c", .int 3⟩, ⟨"a", .text "x"⟩, ⟨"a.b", .int 4⟩]
    (requests[4]?.map ReadRequest.text = requests[1]?.map ReadRequest.text ∧
      (c.answers requests)[1]? = some (.ok (.int 2)) ∧ (Value.int 2).IsSettled ∧
      (c.answers requests)[4]? = some (.ok (.int 2))) ∧
      (c.answers requests)[2]? = some (.error .wrongType) ∧
      (c.answers requests)[3]? = some (.ok (.map [(.text "b", .int 2)])) ∧
      Keeps (c.afterReads (requests.take 1)) (c.afterReads (requests.take 5)) := by
  intro c requests
  obtain ⟨hagain, hkeeps⟩ := reads_stable c requests
  have hanswer : (c.answers requests)[1]? = some (.ok (.int 2)) := by decide
  have hsettled : (Value.int 2).IsSettled := ⟨rfl, rfl⟩
  refine ⟨⟨rfl, hanswer, hsettled, ?_⟩, by decide, by decide, hkeeps 1 5 (by omega)⟩
  exact hagain 1 4 (.int 2) (by omega) rfl hanswer hsettled

/-! ### Reads with a default -/

/-- With a default, a read gives what stands at the path. Where nothing does, or null, it gives the default if
nothing but mappings stands on the way, and the default is there afterwards; otherwise it fails, and leaves
everything as it was. -/
theorem read_answered (c : Config) (text : String) (hdefault : default.isNull = false) :
    let path := Path.ofText text
    ((c.lookup path).isNull = false → Use.read path default c = (.ok (c.lookup path), c)) ∧
      ((c.lookup path).isNull = true → (∀ q, q <+: path → q ≠ path → c.toValue.IsOpenAt q) →
        ∃ after, Use.read path default c = (.ok default, after) ∧ after.lookup path = default) ∧
      ((c.lookup path).isNull = true → ¬ (∀ q, q <+: path → q ≠ path → c.toValue.IsOpenAt q) →
        ∃ problem, Use.read path default c = (.error problem, c)) := by
  intro path
  have hpath : path ≠ [] := ofText_ne_nil text
  have hreading := Use.reading_read hpath default c
  generalize Use.read path default c = outcome at hreading ⊢
  cases hreading with
  | found hfound => simp [hfound]
  | missing hmissing hnull => simp [hnull] at hdefault
  | @kept after hmissing hnotnull hset =>
    refine ⟨fun hfound => ?_, fun _ _ => ⟨after, rfl, ?_⟩, fun _ hclosed => ?_⟩
    · simp [hmissing] at hfound
    · rw [lookup, Value.at?_insertAt hset, Option.getD_some]
    · refine absurd (fun q hbegins hne => ?_) hclosed
      exact Value.isOpenAt_of_insertAt hset hbegins hne
  | @refused problem hmissing hnotnull hset =>
    refine ⟨fun hfound => ?_, fun _ hopen => ?_, fun _ _ => ⟨problem, rfl⟩⟩
    · simp [hmissing] at hfound
    · obtain ⟨w, hw⟩ := Value.exists_insertAt hopen default
      cases hw.symm.trans hset

/-- A default that is missing together with the mapping it belongs to is kept in a new one. -/
theorem read_answered_below_missing :
    let c : Config := ⟨[(.text "a", .map [(.text "x", .int 1)])]⟩
    let path := Path.ofText "a.new.y"
    let default : Value := .list []
    default.isNull = false ∧ (c.lookup path).isNull = true ∧
      (∀ q, q <+: path → q ≠ path → c.toValue.IsOpenAt q) ∧
      ∃ after, Use.read path default c = (.ok default, after) ∧ after.lookup path = default := by
  intro c path default
  have hset : c.toValue.insertAt path default = .ok (.map [(.text "a",
      .map [(.text "x", .int 1), (.text "new", .map [(.text "y", default)])])]) := by rfl
  have hopen : ∀ q, q <+: path → q ≠ path → c.toValue.IsOpenAt q := by
    intro q hbegins hne
    exact Value.isOpenAt_of_insertAt hset hbegins hne
  have hnotnull : default.isNull = false := rfl
  obtain ⟨-, hgiven, -⟩ := read_answered c "a.new.y" hnotnull
  exact ⟨hnotnull, rfl, hopen, hgiven rfl hopen⟩

/-- Below a number, below null and below a list there is nothing, and a read says so; with a default, it fails. -/
theorem read_unanswered :
    let c : Config := ⟨[(.text "number", .int 1), (.text "null", .null), (.text "list", .list [.int 1])]⟩
    let default : Value := .text "x"
    default.isNull = false ∧ ∀ text ∈ ["number.key", "null.key", "list.key"],
      (Use.read (.ofText text) .null c).1 = .ok .null ∧
        (Use.read (.ofText text) default c).1 = .error .wrongType := by
  decide

end Config
end Metastore
