import Metastore.Proofs.Endpoint.Host
import Metastore.Proofs.Endpoint.Reading
import Metastore.Proofs.Endpoint.Splitting

/-!
# Endpoints with blanks around them

Endpoints are trimmed where they are read by themselves, but not where requests are signed. Both readings
agree on an endpoint over https if what stands around it is passed over by splitting, and on no other
(`Endpoint.signed_where_read`).
-/

namespace Metastore

namespace Endpoint

open Text (isBlank leading trailing trimBy)
open Url (Opens)

variable {shown host : String} {port : Nat} {cs : List Char}

/-- Whether something follows the authority: a path, a query or a fragment. -/
def GoesOn (cs : List Char) : Prop :=
  ∃ before rest, Opens cs before rest ∧ ∃ c ∈ rest, Url.endsAuthority c = true

/-- Whether what would be trimmed off an endpoint is passed over without that: control characters and spaces
in front, and behind it tabs and line ends, or anything behind a path, a query or a fragment. -/
structure PassedOver (cs : List Char) : Prop where
  leading : ∀ c ∈ leading isBlank cs, Url.isLeading c = true
  trailing : GoesOn (trimBy isBlank cs) ∨ ∀ c ∈ trailing isBlank cs, Url.isDropped c = true

/-! ### Schemes -/

/-- A text without a scheme of its own is read as one with the scheme http. -/
lemma opens_http (cs : List Char) :
    Opens (Scheme.http.name.toList ++ schemeMark ++ cs) Scheme.http.name.toList
      (cs.filter (!Url.isDropped ·)) := by
  refine ⟨?_, by decide, by decide⟩
  rw [Url.clean_append ⟨'h', by decide, by decide⟩]
  rfl

/-- Only a text that says so is read as one over https. -/
lemma hasInfix_of_https {url : Url} (h : Url.split? (plainText shown) = some url)
    (hscheme : Scheme.ofName? url.scheme = some .https) :
    Text.hasInfix schemeMark (trimBy isBlank shown.toList) = true := by
  by_contra hnone
  rw [plainText, withScheme, if_neg hnone, (opens_http _).split?_eq] at h
  split at h
  · obtain rfl := Option.some.inj h
    dsimp only at hscheme
    exact absurd hscheme (by decide)
  · cases h

/-! ### Blanks around an endpoint -/

variable {url : Url} {before rest : List Char}

/-- A blank in front that is not dropped leaves a text without an authority. -/
lemma split?_of_leading (h : ∃ c ∈ leading isBlank cs, Url.isLeading c = false) :
    Url.split? cs = some ⟨[], []⟩ := by
  have hfound : ((leading isBlank cs).find? (!Url.isLeading ·)).isSome = true := by
    rw [List.find?_isSome]
    obtain ⟨c, hc, hkept⟩ := h
    exact ⟨c, hc, by simp [hkept]⟩
  obtain ⟨c, hc⟩ := Option.isSome_iff_exists.mp hfound
  obtain ⟨hkept, pre, post, hleading, hpre⟩ := List.find?_eq_some_iff_append.mp hc
  have hblank : isBlank c = true := Text.of_mem_leading (by rw [hleading]; simp)
  have hcs : cs = pre ++ c :: (post ++ (trimBy isBlank cs ++ trailing isBlank cs)) := by
    conv_lhs => rw [← Text.leading_append_trimBy isBlank cs, hleading]
    simp
  obtain ⟨more, hclean⟩ := Url.exists_clean_eq_cons (fun d hd => by simpa using hpre d hd)
    (by simpa using hkept) (post ++ (trimBy isBlank cs ++ trailing isBlank cs))
  rw [← hcs] at hclean
  have hletter : Text.isLetter c = false := Text.isLetter_of_isBlank hblank
  have hnone : Url.authorityOf (c :: more) = [] := by
    rw [Url.authorityOf.eq_def]
    split
    · next rest hcons =>
      obtain rfl := (List.cons.inj hcons).1
      cases hblank
    · rfl
  rw [Url.split?, hclean, Url.cutScheme_of_not_isLetter hletter]
  simp only [hnone]
  rfl

/-- Where a host is split off, all blanks in front are dropped. -/
lemma isLeading_of_split? (h : Url.split? cs = some url) (hhost : url.host ≠ []) :
    ∀ c ∈ leading isBlank cs, Url.isLeading c = true := by
  by_contra hnot
  simp only [not_forall, Bool.not_eq_true] at hnot
  obtain ⟨c, hc, hkept⟩ := hnot
  rw [split?_of_leading ⟨c, hc, hkept⟩] at h
  obtain rfl := Option.some.inj h
  exact hhost rfl

/-- The blanks behind a text that are not dropped. -/
def keptBehind (cs : List Char) : List Char :=
  (trailing isBlank cs).filter (!Url.isDropped ·)

lemma isBlank_of_mem_keptBehind {c : Char} (h : c ∈ keptBehind cs) : isBlank c = true :=
  Text.of_mem_trailing (List.mem_of_mem_filter h)

lemma keptBehind_eq_nil_iff :
    keptBehind cs = [] ↔ ∀ c ∈ trailing isBlank cs, Url.isDropped c = true := by
  simp [keptBehind, List.filter_eq_nil_iff]

/-- What stands behind a text that goes on is no part of the authority. -/
lemma takeWhile_append_of_goesOn (h : ∃ c ∈ rest, Url.endsAuthority c = true) (back : List Char) :
    (rest ++ back).takeWhile (!Url.endsAuthority ·) = rest.takeWhile (!Url.endsAuthority ·) := by
  obtain ⟨c, hc, hends⟩ := h
  rw [List.takeWhile_append, if_neg]
  intro hlength
  have hall := List.mem_takeWhile_imp
    (((List.takeWhile_prefix (!Url.endsAuthority ·)).eq_of_length hlength).symm ▸ hc)
  simp [hends] at hall

/-- White space ends no authority. -/
lemma endsAuthority_of_isBlank {c : Char} (h : isBlank c = true) : Url.endsAuthority c = false := by
  rw [Bool.eq_false_iff]
  intro hends
  simp only [Url.endsAuthority, Bool.or_eq_true, decide_eq_true_eq] at hends
  rcases hends with (rfl | rfl) | rfl <;> cases h

/-- Blanks behind a text that does not go on are at the end of the authority. -/
lemma takeWhile_append_blanks {back : List Char} (hback : ∀ c ∈ back, isBlank c = true)
    (hrest : ¬ ∃ c ∈ rest, Url.endsAuthority c = true) :
    (rest ++ back).takeWhile (!Url.endsAuthority ·) = rest ++ back := by
  rw [List.takeWhile_eq_self_iff]
  intro c hc
  rcases List.mem_append.mp hc with hc | hc
  · simpa using fun hends => hrest ⟨c, hc, hends⟩
  · simpa using endsAuthority_of_isBlank (hback c hc)

/-- What is known of an endpoint over https whose host is read: how it is split once it is trimmed, and that
nothing is put in front of it. -/
structure ReadsHttps (shown : String) (before rest : List Char) (url : Url) : Prop where
  opens : Opens (trimBy isBlank shown.toList) before rest
  scheme_eq : url.scheme = before.map Char.toLower
  authority_eq : url.authority = rest.takeWhile (!Url.endsAuthority ·)
  isSound_eq : Url.isSound url.authority = true
  signingText_eq : signingText shown = shown.toList
  trimmed_eq : signingText (Text.trim shown) = trimBy isBlank shown.toList

lemma exists_readsHttps {url : Url} (h : Url.split? (plainText shown) = some url)
    (hscheme : Scheme.ofName? url.scheme = some .https) (hhost : url.host ≠ []) :
    ∃ before rest, ReadsHttps shown before rest url := by
  have hmark := hasInfix_of_https h hscheme
  have hwhole : Text.hasInfix schemeMark shown.toList = true :=
    Text.hasInfix_iff.mpr ((Text.hasInfix_iff.mp hmark).trans (Text.trimBy_infix _ _))
  have hplain : plainText shown = trimBy isBlank shown.toList := by
    rw [plainText, withScheme, if_pos hmark]
  have hne : url.scheme ≠ [] := by
    intro hnil
    rw [hnil] at hscheme
    cases hscheme
  obtain ⟨before, rest, hopens, hurl, hauthority, hsound⟩ := Url.opens_of_split? h hne hhost
  rw [hplain] at hopens
  refine ⟨before, rest, hopens, hurl, hauthority, hsound, ?_, ?_⟩
  · rw [signingText, withScheme, if_pos hwhole]
  · rw [signingText, Text.trim, String.toList_ofList, withScheme, if_pos hmark]

namespace ReadsHttps

lemma goesOn_iff (h : ReadsHttps shown before rest url) :
    GoesOn (trimBy isBlank shown.toList) ↔ ∃ c ∈ rest, Url.endsAuthority c = true := by
  constructor
  · rintro ⟨before', rest', hopens, hends⟩
    obtain ⟨-, rfl⟩ := hopens.unique h.opens
    exact hends
  · exact fun hends => ⟨before, rest, h.opens, hends⟩

/-- Where the endpoint is split as it is, what is kept behind it belongs to the rest. -/
lemma opens_shown (h : ReadsHttps shown before rest url)
    (hlead : ∀ c ∈ leading isBlank shown.toList, Url.isLeading c = true) :
    Opens shown.toList before (rest ++ keptBehind shown.toList) := by
  have hsurround := h.opens.surround hlead (trailing isBlank shown.toList)
  rwa [Text.leading_append_trimBy] at hsurround

lemma split?_of_passedOver (h : ReadsHttps shown before rest url)
    (hpassed : PassedOver shown.toList) : Url.split? (signingText shown) = some url := by
  have hsame : (rest ++ keptBehind shown.toList).takeWhile (!Url.endsAuthority ·) =
      url.authority := by
    rw [h.authority_eq]
    rcases hpassed.trailing with hgoes | hdropped
    · exact takeWhile_append_of_goesOn (h.goesOn_iff.mp hgoes) _
    · rw [keptBehind_eq_nil_iff.mpr hdropped, List.append_nil]
  rw [h.signingText_eq, (h.opens_shown hpassed.leading).split?_eq, hsame, if_pos h.isSound_eq,
    ← h.scheme_eq]

/-- A host and a port that are the same are split off only where the blanks are passed over. -/
lemma passedOver_of_split? (h : ReadsHttps shown before rest url) (hhost : url.host ≠ []) {other : Url}
    (hsplit : Url.split? (signingText shown) = some other) (hsame : other.host = url.host)
    (hport : other.port ≠ .invalid) : PassedOver shown.toList := by
  rw [h.signingText_eq] at hsplit
  have hlead := isLeading_of_split? hsplit (hsame ▸ hhost)
  refine ⟨hlead, ?_⟩
  by_contra hnot
  rw [not_or, h.goesOn_iff, ← keptBehind_eq_nil_iff] at hnot
  obtain ⟨hends, hkept⟩ := hnot
  have hauthority : url.authority = rest := by
    rw [h.authority_eq, List.takeWhile_eq_self_iff]
    exact fun c hc => by simpa using fun hend => hends ⟨c, hc, hend⟩
  have hblank : ∀ c ∈ keptBehind shown.toList, isBlank c = true :=
    fun _ => isBlank_of_mem_keptBehind
  rw [(h.opens_shown hlead).split?_eq, takeWhile_append_blanks hblank hends] at hsplit
  split at hsplit
  · next hsound =>
    obtain rfl := Option.some.inj hsplit
    have hgiven : (⟨url.scheme, rest⟩ : Url) = url := by rw [← hauthority]
    rcases Url.changed_of_blanks hblank hkept url.scheme rest hsound with hchanged | hinvalid
    · rw [hgiven] at hchanged
      exact hchanged hsame
    · exact hport hinvalid
  · cases hsplit

end ReadsHttps

/-- The host and the port that are read are read for signed requests too if the blanks are passed over, and
only then. -/
lemma parseSigning_iff (h : parse shown = .ok ⟨.https, host, port⟩) :
    parseSigning shown = .ok (host, port) ↔ PassedOver shown.toList := by
  obtain ⟨url, hsplit, hscheme, hhost, rfl, hport⟩ := parse_eq_ok h
  obtain ⟨before, rest, hreads⟩ := exists_readsHttps hsplit hscheme hhost
  rw [parseSigning_eq_ok]
  constructor
  · rintro ⟨other, hother, -, hsame, hnumber⟩
    refine hreads.passedOver_of_split? hhost hother (String.ofList_injective hsame) fun hinvalid => ?_
    rw [hinvalid] at hnumber
    cases hnumber
  · exact fun hpassed => ⟨url, hreads.split?_of_passedOver hpassed, hhost, rfl, hport⟩

/-- Once it is trimmed, an endpoint is read for signed requests as by itself. -/
lemma parseSigning_trim (h : parse shown = .ok ⟨.https, host, port⟩) :
    parseSigning (Text.trim shown) = .ok (host, port) := by
  obtain ⟨url, hsplit, hscheme, hhost, rfl, hport⟩ := parse_eq_ok h
  obtain ⟨before, rest, hreads⟩ := exists_readsHttps hsplit hscheme hhost
  refine parseSigning_eq_ok.mpr ⟨url, ?_, hhost, rfl, portOr_eq_ok hport _⟩
  rw [hreads.trimmed_eq, hreads.opens.split?_eq, ← hreads.authority_eq, if_pos hreads.isSound_eq,
    ← hreads.scheme_eq]

end Endpoint

/-! ### Clients -/

namespace Services

variable {region serviceName : Value} {chain : Credentials.ChainRef} {poolSize : Int}
  {begin : Privileged Services}

/-- Whether a client is built that reaches a host and a port with signed requests. -/
def BuildsFor (host : String) (port : Nat) (connecting : Setup Transport)
    (begin : Privileged Services) : Prop :=
  ∃ transport after, connecting begin = (.ok transport, after) ∧
    transport.address = ⟨.https, host, port⟩ ∧ after.state.cluster = some { transport }

lemma buildsFor_iff {shown host : String} {port : Nat} (h : Signable region serviceName) :
    BuildsFor host port (connectSigning (.text shown) region serviceName chain poolSize) begin ↔
      Endpoint.parseSigning shown = .ok (host, port) := by
  constructor
  · rintro ⟨transport, after, hconnect, haddress, -⟩
    cases hparse : Endpoint.parseSigning shown with
    | error problem =>
      rw [connectSigning_of_error (signingAddress_of_error hparse)] at hconnect
      cases hconnect
    | ok found =>
      rw [connectSigning_of_ok (signingAddress_of_ok hparse) h] at hconnect
      obtain rfl := Except.ok.inj (Prod.mk.inj hconnect).1
      obtain ⟨-, rfl, rfl⟩ := Endpoint.mk.inj haddress
      rfl
  · intro hparse
    exact ⟨_, _, connectSigning_of_ok (signingAddress_of_ok hparse) h, rfl, rfl⟩

end Services

namespace Endpoint

/-- Take any endpoint over https that is read. A client that signs its requests is built for the same host
and port if what would be trimmed off the endpoint is passed over without that, and only then; it always is
if the endpoint is trimmed before. -/
theorem signed_where_read {shown host : String} {port : Nat}
    (h : parse shown = .ok ⟨.https, host, port⟩) {region serviceName : Value}
    (hsign : Services.Signable region serviceName) (chain : Credentials.ChainRef) (poolSize : Int)
    (begin : Privileged Services) :
    (Services.BuildsFor host port
        (Services.connectSigning (.text shown) region serviceName chain poolSize) begin ↔
      PassedOver shown.toList) ∧
    Services.BuildsFor host port
      (Services.connectSigning (.text (Text.trim shown)) region serviceName chain poolSize) begin := by
  rw [Services.buildsFor_iff hsign, Services.buildsFor_iff hsign]
  exact ⟨parseSigning_iff h, parseSigning_trim h⟩

/-- What is behind a path is passed over, even a blank that is not dropped. -/
theorem signed_where_read_of_path :
    Services.BuildsFor "h" 443
      (Services.connectSigning (.text " https://u@H:0/p\u00a0") (.text "eu-west-1") (.text "es") ⟨0⟩ 20)
      ⟨false, {}⟩ := by
  have hread : parse " https://u@H:0/p\u00a0" = .ok ⟨.https, "h", 443⟩ := by decide +kernel
  have hpassed : PassedOver " https://u@H:0/p\u00a0".toList := by
    have hopens : Url.Opens "https://u@H:0/p".toList "https".toList "u@H:0/p".toList :=
      ⟨by decide +kernel, by decide, by decide⟩
    have htrimmed : Text.trimBy Text.isBlank " https://u@H:0/p\u00a0".toList =
        "https://u@H:0/p".toList := by
      decide +kernel
    refine ⟨List.all_eq_true.mp (by decide +kernel), .inl ?_⟩
    rw [htrimmed]
    exact ⟨_, _, hopens, '/', by decide, rfl⟩
  exact (signed_where_read hread ⟨rfl, rfl⟩ ⟨0⟩ 20 ⟨false, {}⟩).1.mpr hpassed

/-- A space behind an endpoint becomes part of the host where requests are signed. -/
theorem signed_elsewhere_of_space :
    parse "https://h " = .ok ⟨.https, "h", 443⟩ ∧
      ¬ Services.BuildsFor "h" 443
        (Services.connectSigning (.text "https://h ") (.text "eu-west-1") (.text "es") ⟨0⟩ 20)
        ⟨false, {}⟩ := by
  rw [Services.buildsFor_iff ⟨rfl, rfl⟩]
  decide +kernel

end Endpoint
end Metastore
