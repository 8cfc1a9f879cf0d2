import Metastore.Proofs.Client.Spelling

/-!
# What is said of unknown kinds

While a client is created, notices are added to the log and none is taken away. One that says that the kind of
backend is unknown is among them exactly where the caller's own store is taken for a spelling that deserves a
warning, and it names the kind as it was spelled (`Client.warned_iff`).

Spellings of the caller's own store with separators in them are warned of too, though they are known
(`Client.warned_of_separated_local`).
-/

namespace Metastore

/-! ### Notices -/

namespace Notice

/-- Whether a notice says that a kind of backend is unknown. -/
def TellsUnknown (notice : Notice) : Prop :=
  ∃ kind, notice = ⟨.warning, Client.unknownNotice kind⟩

lemma not_tellsUnknown_info (message : String) : ¬ TellsUnknown ⟨.info, message⟩ := by
  rintro ⟨kind, h⟩
  cases h

lemma not_tellsUnknown_insecure (endpoint : Value) :
    ¬ TellsUnknown ⟨.warning, Services.insecureNotice endpoint⟩ := by
  unfold TellsUnknown Services.insecureNotice Client.unknownNotice
  rintro ⟨kind, h⟩
  have hmessage := congrArg String.toList (Notice.mk.inj h).2
  simp at hmessage

lemma IsOfConnecting.not_tellsUnknown {endpoint : Value} {notice : Notice}
    (h : notice.IsOfConnecting endpoint) : ¬ notice.TellsUnknown := by
  rcases h with hinfo | rfl
  · rintro ⟨kind, rfl⟩
    cases hinfo
  · exact not_tellsUnknown_insecure endpoint

end Notice

/-! ### Creating clients -/

/-- Whether notices were added since before, and none that says that a kind of backend is unknown. -/
def Services.Unwarned (before s : Services) : Prop :=
  ∃ news, s.log = before.log ++ news ∧ ∀ notice ∈ news, ¬ notice.TellsUnknown

/-- What counts is the log. -/
lemma Services.Unwarned.congr {before between s : Services} (h : Unwarned before between)
    (hlog : s.log = between.log) : Unwarned before s := by
  obtain ⟨news, hnews, hquiet⟩ := h
  exact ⟨news, hlog.trans hnews, hquiet⟩

namespace Client

open Services (Unwarned)

variable {s : String} {opening : Setup Credentials.ChainRef} {around : Surroundings} {kind : Value}
  {read : BackendSettings} {begin after : Privileged Services}

/-- Only the caller's own store may be taken for a kind that is unknown. -/
lemma unwarned_of_making (hopening : ∀ s, (opening s).2.state.log = s.state.log)
    (hbackend : read.backend ≠ .local) {result : Except Problem Delegate}
    (h : Delegate.Making opening around kind read begin (result, after)) :
    Unwarned begin.state after.state := by
  have hconnecting {notices : List Notice}
      (hnotices : ∀ notice ∈ notices, notice.IsOfConnecting read.endpoint) :
      ∀ notice ∈ notices, ¬ notice.TellsUnknown :=
    fun notice hmem => (hnotices notice hmem).not_tellsUnknown
  have hopened {message : String} {made : Except Problem Credentials.ChainRef}
      {between : Privileged Services}
      (hopened : opening { begin with state := begin.state.saying [⟨.info, message⟩] } =
        (made, between)) : Unwarned begin.state between.state := by
    have hlog := hopening { begin with state := begin.state.saying [⟨.info, message⟩] }
    rw [hopened] at hlog
    exact ⟨_, hlog, by simpa using Notice.not_tellsUnknown_info message⟩
  have hsearched {chain : Credentials.ChainRef} {transport : Transport} {between : Privileged Services}
      (hsearching : Delegate.Searching opening read begin chain transport between) :
      Unwarned begin.state between.state := by
    obtain ⟨message, hsearch⟩ := hsearching.opened
    exact hopened hsearch
  cases h with
  | onCallerStore hlocal => exact absurd hlocal hbackend
  | refused problem notices hremote hnotices hproblem => exact ⟨_, rfl, hconnecting hnotices⟩
  | remote transport notices hremote hnotices htransport hbuilt =>
    exact ⟨_, rfl, hconnecting hnotices⟩
  | unopened problem message after hsigned hfailed => exact hopened hfailed
  | unsearched problem message chain between hsigned hchain hproblem => exact hopened hchain
  | cloud chain transport between hcloud hsearching => exact (hsearched hsearching).congr rfl
  | closed problem chain transport between htable hsearching hbuild hordinary =>
    exact (hsearched hsearching).congr rfl
  | interrupted problem chain transport between htable hsearching hbuild hordinary =>
    exact (hsearched hsearching).congr rfl
  | keyValue chain transport between htable hsearching => exact (hsearched hsearching).congr rfl

/-- What is said where the caller's own store is taken. -/
lemma exists_tellsUnknown_localNotices :
    (∃ notice ∈ localNotices (.text s), notice.TellsUnknown) ↔ Backend.isUnknown s = true := by
  have hinfo := Notice.not_tellsUnknown_info "Using local opensearch cluster as metadata store"
  have htold : Notice.TellsUnknown ⟨.warning, unknownNotice (.text s)⟩ := ⟨_, rfl⟩
  cases h : Backend.isUnknown s <;> simp [localNotices, Value.text?, h, hinfo, htold]

lemma eq_of_tellsUnknown_localNotices {kind : Value} {notice : Notice} (hmem : notice ∈ localNotices kind)
    (h : notice.TellsUnknown) : notice = ⟨.warning, unknownNotice kind⟩ := by
  rw [localNotices, List.mem_append, List.mem_singleton] at hmem
  rcases hmem with hwarned | rfl
  · split at hwarned
    · exact List.mem_singleton.mp hwarned
    · cases hwarned
  · exact absurd h (Notice.not_tellsUnknown_info _)

lemma unwarned_createOpening {backend : Backend} (hopening : ∀ s, (opening s).2.state.log = s.state.log)
    (hs : Backend.ofSetting (.text s) = .ok backend) (hremote : backend ≠ .local)
    (around : Surroundings) (settings : Mapping) (begin : Privileged Services) :
    Unwarned begin.state (createOpening opening around (withKind settings s) begin).2.state := by
  have hkind : Backend.ofSetting ((withKind settings s).getText Setting.kind) = .ok backend := by
    rwa [getText_withKind_kind]
  have hcreating := creating_createOpening opening around (withKind settings s) begin
  generalize createOpening opening around (withKind settings s) begin = outcome at hcreating ⊢
  have hread {read : BackendSettings}
      (hread : BackendSettings.ofMapping (withKind settings s) = .ok read) : read.backend ≠ .local := by
    rw [ofMapping_of_kind hkind] at hread
    obtain rfl := Except.ok.inj hread
    exact hremote
  cases hcreating with
  | unread problem hread => exact ⟨[], by simp, by simp⟩
  | failed problem read after hok hmaking => exact unwarned_of_making hopening (hread hok) hmaking
  | created delegate read after hok hmaking => exact unwarned_of_making hopening (hread hok) hmaking

/-- While a client is created, whatever comes of it, a notice that the kind of backend is unknown is logged
exactly if the spelling is not blank and either it is not known or it is that of the caller's own store with
separators in it. The notice names the kind as it was spelled. -/
theorem warned_iff (made : Except Problem Credentials.Chain) (around : Surroundings) (settings : Mapping)
    (s : String) (begin : Privileged Services) :
    ∃ news, (createOpening (takeChain made) around (withKind settings s) begin).2.state.log =
        begin.state.log ++ news ∧
      ((∃ notice ∈ news, notice.TellsUnknown) ↔
        (∃ c ∈ s.toList, Text.isBlank c = false) ∧ (¬ Backend.IsKnown s ∨ Backend.IsSeparatedLocal s)) ∧
      ∀ notice ∈ news, notice.TellsUnknown → notice = ⟨.warning, unknownNotice (.text s)⟩ := by
  have hs : Backend.ofSetting (.text s) = .ok ((Backend.ofSpelling? s).getD .local) := rfl
  by_cases hlocal : (Backend.ofSpelling? s).getD .local = .local
  · refine ⟨localNotices (.text s), ?_, ?_, fun notice => eq_of_tellsUnknown_localNotices⟩
    · rw [createOpening_withKind hs, hlocal, Action.bind_of_ok (createDelegate_of_local rfl)]
      rfl
    · rw [exists_tellsUnknown_localNotices, Backend.isUnknown_iff hlocal]
  · have hopening (start : Privileged Services) :
        (takeChain made start).2.state.log = start.state.log := by
      cases made <;> rfl
    obtain ⟨news, hlog, hquiet⟩ := unwarned_createOpening hopening hs hlocal around settings begin
    refine ⟨news, hlog, ?_, fun notice hmem h => absurd h (hquiet notice hmem)⟩
    have hknown : Backend.IsKnown s := by
      rw [Backend.isKnown_iff]
      cases h : Backend.ofSpelling? s <;> simp_all
    have hother : ¬ Backend.IsSeparatedLocal s := by
      rintro ⟨hnormal, -⟩
      rw [Backend.ofSpelling?_eq_local_iff.mpr hnormal] at hlocal
      exact hlocal rfl
    constructor
    · rintro ⟨notice, hmem, h⟩
      exact absurd h (hquiet notice hmem)
    · rintro ⟨-, hunknown | hseparated⟩
      · exact absurd hknown hunknown
      · exact absurd hseparated hother

/-- The caller's own store, known by its spelling, and taken with a warning that it is unknown. -/
theorem warned_of_separated_local :
    Backend.ofSpelling? "lo-cal" = some .local ∧
      (create {} (withKind [] "lo-cal") ⟨false, {}⟩).2.state.log =
        [⟨.warning, unknownNotice (.text "lo-cal")⟩,
          ⟨.info, "Using local opensearch cluster as metadata store"⟩] := by
  decide +kernel

end Client
end Metastore
