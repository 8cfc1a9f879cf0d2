import Metastore.Proofs.Endpoint.Authority
import Metastore.Proofs.Services.Connection

/-!
# Reading endpoints

What becomes of a text that is read as an endpoint. If its authority can be split, it is read or refused as
a setting; if not, the problem is none of a setting (`Endpoint.read_or_refused`).
-/

namespace Metastore

namespace Endpoint

open Url (Splits authorityIn)

variable {α : Type} {cs : List Char} {shown host : String} {port : Nat} {problem : Problem}

/-- The text that is split where an endpoint is read. -/
def plainText (shown : String) : List Char :=
  withScheme .http (Text.trimBy Text.isBlank shown.toList)

/-- The text that is split where an endpoint is read for signed requests. -/
def signingText (shown : String) : List Char := withScheme .https shown.toList

/-! ### What is read -/

lemma parse_eq_ok {scheme : Scheme} (h : parse shown = .ok ⟨scheme, host, port⟩) :
    ∃ url, Url.split? (plainText shown) = some url ∧ Scheme.ofName? url.scheme = some scheme ∧
      url.host ≠ [] ∧ String.ofList url.host = host ∧
        portOr scheme.defaultPort shown url.port = .ok port := by
  rw [parse] at h
  split at h
  · cases h
  · next url hsplit =>
    rw [ofUrl] at h
    split at h
    · cases h
    · next found hscheme =>
      split at h
      · cases h
      · next hhost =>
        obtain ⟨number, hport, hall⟩ := except_bind_eq_ok.mp h
        cases Except.ok.inj hall
        exact ⟨url, hsplit, hscheme, by simpa using hhost, rfl, hport⟩

lemma parseSigning_eq_ok : parseSigning shown = .ok (host, port) ↔
    ∃ url, Url.split? (signingText shown) = some url ∧ url.host ≠ [] ∧
      String.ofList url.host = host ∧ portOr Scheme.https.defaultPort shown url.port = .ok port := by
  constructor
  · intro h
    rw [parseSigning] at h
    split at h
    · cases h
    · next url hsplit =>
      split at h
      · cases h
      · next hhost =>
        obtain ⟨number, hport, hall⟩ := except_bind_eq_ok.mp h
        cases Except.ok.inj hall
        exact ⟨url, hsplit, by simpa using hhost, rfl, hport⟩
  · rintro ⟨url, hsplit, hhost, rfl, hport⟩
    rw [signingText] at hsplit
    have hsome : url.host.isEmpty = false := by simpa using hhost
    simp only [parseSigning, hsplit, hsome, hport]
    rfl

/-- The words of a complaint do not matter to a port that is one. -/
lemma portOr_eq_ok {default : Nat} {written : PortText} (h : portOr default shown written = .ok port)
    (other : String) : portOr default other written = .ok port := by
  cases written with
  | absent => exact h
  | number n => exact h
  | invalid => cases h

/-! ### What is refused -/

/-- Whether a text is read, or refused as a setting, as long as its authority can be split, and otherwise
fails as a bad value; besides, something else that is needed may not be usable. -/
structure ReadOrRefused {α : Type} (cs : List Char) (usable : Prop) (outcome : Except Problem α) :
    Prop where
  config_of_error : Splits (authorityIn cs) → ∀ problem, outcome = .error problem →
    (∃ fault, problem = .config fault) ∨ ¬ usable ∧ problem = .badValue
  badValue_of_not : ¬ Splits (authorityIn cs) → outcome = .error .badValue

/-- It comes down to what is complained of in what is split off. -/
lemma readOrRefused_of_split {outcome : Except Problem α}
    (hnone : Url.split? cs = none → outcome = .error .badValue)
    (hsome : ∀ url, Url.split? cs = some url → ∀ problem, outcome = .error problem →
      ∃ fault, problem = .config fault) : ReadOrRefused cs True outcome := by
  rw [Url.split?_eq] at hnone hsome
  constructor
  · intro hsplits problem hproblem
    exact .inl (hsome _ (if_pos (Url.isSound_iff.mpr hsplits)) problem hproblem)
  · exact fun hnot => hnone (if_neg (mt Url.isSound_iff.mp hnot))

/-- A port that is none is complained of as a setting. -/
lemma config_of_portOr {default : Nat} {written : PortText} {f : Nat → α}
    (h : (do return f (← portOr default shown written) : Except Problem α) = .error problem) :
    ∃ fault, problem = .config fault := by
  cases written with
  | absent => cases h
  | number n => cases h
  | invalid => exact ⟨_, (Except.error.inj h).symm⟩

lemma config_of_ofUrl {url : Url} (h : ofUrl shown url = .error problem) :
    ∃ fault, problem = .config fault := by
  rw [ofUrl] at h
  split at h
  · exact ⟨_, (Except.error.inj h).symm⟩
  · split at h
    · exact ⟨_, (Except.error.inj h).symm⟩
    · exact config_of_portOr h

lemma readOrRefused_parse (shown : String) :
    ReadOrRefused (plainText shown) True (parse shown) := by
  rw [plainText]
  refine readOrRefused_of_split (fun hsplit => ?_) fun url hsplit problem hproblem => ?_
  · rw [parse, hsplit]
  · rw [parse, hsplit] at hproblem
    exact config_of_ofUrl hproblem

lemma readOrRefused_parseSigning (shown : String) :
    ReadOrRefused (signingText shown) True (parseSigning shown) := by
  rw [signingText]
  refine readOrRefused_of_split (fun hsplit => ?_) fun url hsplit problem hproblem => ?_
  · rw [parseSigning, hsplit]
  · rw [parseSigning, hsplit] at hproblem
    dsimp only at hproblem
    split at hproblem
    · exact ⟨_, (Except.error.inj hproblem).symm⟩
    · exact config_of_portOr hproblem

end Endpoint

namespace Services

open Endpoint (ReadOrRefused signingText)

lemma readOrRefused_connectSigning (shown : String) (region serviceName : Value)
    (chain : Credentials.ChainRef) (poolSize : Int) (begin : Privileged Services) :
    ReadOrRefused (signingText shown) (Signable region serviceName)
      (connectSigning (.text shown) region serviceName chain poolSize begin).1 := by
  obtain ⟨hconfig, hbad⟩ := Endpoint.readOrRefused_parseSigning shown
  cases hparse : Endpoint.parseSigning shown with
  | error problem =>
    rw [connectSigning_of_error (signingAddress_of_error hparse)]
    rw [hparse] at hconfig hbad
    refine ⟨fun hsplits reason hreason => ?_, fun hnot => ?_⟩
    · obtain rfl := Except.error.inj hreason
      rcases hconfig hsplits _ rfl with hfault | ⟨hnever, -⟩
      · exact .inl hfault
      · exact absurd trivial hnever
    · rw [Except.error.inj (hbad hnot)]
  | ok found =>
    have haddress := signingAddress_of_ok hparse
    rw [hparse] at hbad
    refine ⟨fun _ problem hproblem => ?_, fun hnot => absurd (hbad hnot) (by simp)⟩
    by_cases hsign : Signable region serviceName
    · rw [connectSigning_of_ok haddress hsign] at hproblem
      cases hproblem
    · rw [connectSigning_of_not_signable haddress hsign] at hproblem
      exact .inr ⟨hsign, (Except.error.inj hproblem).symm⟩

end Services

namespace Endpoint

open Url (Splits authorityIn IsPlain)

/-- What holds of the characters of a text holds of them with a scheme in front. -/
lemma forall_mem_withScheme {p : Char → Prop} {cs : List Char} {scheme : Scheme}
    (hfront : ∀ c ∈ scheme.name.toList ++ schemeMark, p c) (h : ∀ c ∈ cs, p c) :
    ∀ c ∈ withScheme scheme cs, p c := by
  rw [withScheme]
  split
  · exact h
  · exact fun c hc => (List.mem_append.mp hc).elim (hfront c) (h c)

lemma isPlain_withScheme {cs : List Char} (h : ∀ c ∈ cs, IsPlain c) (scheme : Scheme) :
    ∀ c ∈ withScheme scheme cs, IsPlain c := by
  apply forall_mem_withScheme _ h
  cases scheme <;> simp [IsPlain, Scheme.name, schemeMark]

/-- Every text is read as an endpoint or refused as a setting, by itself and where it is connected to with
signed requests, unless its authority cannot be split: brackets are out of place, or a character stands for
a delimiter. Then the problem is a bad value. A text of ASCII without brackets never has that problem, and
without a region or a service nothing is signed, whatever the text. -/
theorem read_or_refused (shown : String) :
    ReadOrRefused (plainText shown) True (parse shown) ∧
    (∀ region serviceName chain poolSize begin,
      ReadOrRefused (signingText shown) (Services.Signable region serviceName)
        (Services.connectSigning (.text shown) region serviceName chain poolSize begin).1) ∧
    ((∀ c ∈ shown.toList, IsPlain c) →
      Splits (authorityIn (plainText shown)) ∧ Splits (authorityIn (signingText shown))) := by
  refine ⟨readOrRefused_parse shown, Services.readOrRefused_connectSigning shown, fun hplain => ?_⟩
  have htrimmed : ∀ c ∈ Text.trimBy Text.isBlank shown.toList, IsPlain c := fun c hc =>
    hplain c ((Text.trimBy_infix _ _).subset hc)
  exact ⟨Url.splits_of_plain (isPlain_withScheme htrimmed .http),
    Url.splits_of_plain (isPlain_withScheme hplain .https)⟩

/-- A bracket that is not closed is no complaint about a setting. -/
theorem badValue_of_open_bracket :
    parse "http://[" = .error .badValue ∧
      (Services.connectSigning (.text "https://[") (.text "eu-west-1") (.text "es") ⟨0⟩ 20
        ⟨false, {}⟩).1 = .error .badValue := by
  decide +kernel

end Endpoint
end Metastore
