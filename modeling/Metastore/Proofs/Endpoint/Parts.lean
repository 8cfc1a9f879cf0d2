import Metastore.Proofs.Endpoint.Address
import Metastore.Proofs.Endpoint.Reading
import Metastore.Proofs.Endpoint.Splitting
import Metastore.Proofs.Text.Digits

/-!
# Endpoints from their parts

An endpoint that is put together from a scheme, an authority and what goes on behind it is split into these
again (`Endpoint.parse_of_parts`), and an authority that is put together from user information, a host and
a port is split into host and port.
-/

namespace Metastore

namespace Url

variable {spelling authority tail user host port : List Char}

/-! ### Schemes -/

lemma isSchemeChar_of_isLetter {c : Char} (h : Text.isLetter c = true) : isSchemeChar c = true := by
  simp [isSchemeChar, h]

lemma isScheme_of_letters (hne : spelling ≠ []) (h : ∀ c ∈ spelling, Text.isLetter c = true) :
    isScheme spelling = true := by
  obtain ⟨c, rest, rfl⟩ := List.exists_cons_of_ne_nil hne
  rw [isScheme, Bool.and_eq_true, List.all_eq_true]
  exact ⟨h c List.mem_cons_self, fun d hd => isSchemeChar_of_isLetter (h d hd)⟩

/-- A letter is not dropped, wherever it stands. -/
lemma kept_of_isLetter {c : Char} (h : Text.isLetter c = true) :
    isLeading c = false ∧ isDropped c = false ∧ c ≠ ':' := by
  rw [Text.isLetter_iff] at h
  have hleading : isLeading c = false := by
    simp only [isLeading, decide_eq_false_iff_not]
    omega
  refine ⟨hleading, isDropped_of_not_isLeading hleading, ?_⟩
  rintro rfl
  revert h
  decide

lemma kept_of_isDigit {c : Char} (h : Text.isDigit c = true) :
    endsAuthority c = false ∧ isDropped c = false := by
  rw [Text.isDigit_iff] at h
  refine ⟨?_, isDropped_of_not_isLeading ?_⟩
  · rw [Bool.eq_false_iff]
    intro hends
    simp only [endsAuthority, Bool.or_eq_true, decide_eq_true_eq] at hends
    rcases hends with (rfl | rfl) | rfl <;> revert h <;> decide
  · simp only [isLeading, decide_eq_false_iff_not]
    omega

/-- A scheme of letters, its mark, an authority and a tail are found again once the text is cleaned. -/
lemma opens_of_parts (hne : spelling ≠ []) (hletters : ∀ c ∈ spelling, Text.isLetter c = true)
    (hkept : ∀ c ∈ authority, isDropped c = false) (tail : List Char) :
    Opens (spelling ++ Endpoint.schemeMark ++ (authority ++ tail)) spelling
      (authority ++ tail.filter (!isDropped ·)) := by
  obtain ⟨first, more, rfl⟩ := List.exists_cons_of_ne_nil hne
  have hfirst : isLeading first = false := (kept_of_isLetter (hletters first List.mem_cons_self)).1
  have hfront : ∀ c ∈ first :: more ++ Endpoint.schemeMark ++ authority, isDropped c = false := by
    have hmark : ∀ c ∈ Endpoint.schemeMark, isDropped c = false := by
      simp [Endpoint.schemeMark, isDropped]
    intro c hc
    rcases List.mem_append.mp hc with hc | hc
    · rcases List.mem_append.mp hc with hc | hc
      · exact (kept_of_isLetter (hletters c hc)).2.1
      · exact hmark c hc
    · exact hkept c hc
  refine ⟨?_, fun hcolon => (kept_of_isLetter (hletters ':' hcolon)).2.2 rfl,
    isScheme_of_letters hne hletters⟩
  have hclean : clean (first :: more ++ Endpoint.schemeMark ++ authority) =
      first :: more ++ Endpoint.schemeMark ++ authority := by
    rw [clean, List.cons_append, List.cons_append, List.dropWhile_cons_of_neg (by simp [hfirst]),
      List.filter_eq_self]
    exact fun c hc => by simpa using hfront c hc
  rw [← List.append_assoc, clean_append ⟨first, by simp, hfirst⟩, hclean]
  simp [Endpoint.schemeMark]

lemma isDropped_of_endsAuthority {c : Char} (h : endsAuthority c = true) : isDropped c = false := by
  simp only [endsAuthority, Bool.or_eq_true, decide_eq_true_eq] at h
  rcases h with (rfl | rfl) | rfl <;> rfl

/-! ### Hosts and ports -/

/-- User information is passed over. -/
lemma hostPart_of_user (h : '@' ∉ host) : hostPart (user ++ '@' :: host) = host :=
  Text.afterLast_append_cons h user

/-- A host without brackets ends at the first colon. -/
lemma hostAndPort_of_plain {scheme authority : List Char} (hpart : hostPart authority = host ++ port)
    (hopen : '[' ∉ host ++ port) (hcolon : ':' ∉ host) (hport : port = [] ∨ port.head? = some ':') :
    (⟨scheme, authority⟩ : Url).hostAndPort = (host, port.tail) := by
  rw [hostAndPort]
  simp only [hpart, Text.cutAt_of_not_mem hopen]
  rcases hport with rfl | hhead
  · rw [List.append_nil, Text.cutAt_of_not_mem hcolon]
    rfl
  · obtain ⟨written, rfl⟩ := List.head?_eq_some_iff.mp hhead
    rw [Text.cutAt_append_cons hcolon]
    rfl

/-- A host in brackets ends with them. -/
lemma hostAndPort_of_bracketed {scheme authority : List Char}
    (hpart : hostPart authority = '[' :: (host ++ ']' :: ':' :: port)) (hclose : ']' ∉ host) :
    (⟨scheme, authority⟩ : Url).hostAndPort = (host, port) := by
  rw [hostAndPort]
  simp only [hpart, Text.cutAt_cons, Text.cutAt_append_cons hclose, Option.getD_some]

lemma isDigit_decimal (n : Nat) : (Text.decimal n).all Text.isDigit = true :=
  List.all_eq_true.mpr fun _ hc => Text.isDigit_of_mem_decimal hc

/-- The port of a URL, from what is written for it. -/
lemma port_of_decimal {url : Url} {n : Nat} (h : url.hostAndPort.2 = Text.decimal n) :
    url.port = if n ≤ 65535 then .number n else .invalid := by
  have hne : (Text.decimal n).isEmpty = false := by simp [Text.decimal, Nat.toDigits_ne_nil]
  have hread : Text.readDigits 10 (Text.decimal n) = some n :=
    Text.readDigits_toDigits (by decide) (by decide) n
  simp only [port, h, hne, isDigit_decimal, hread]
  simp

lemma port_of_nil {url : Url} (h : url.hostAndPort.2 = []) : url.port = .absent := by
  simp [port, h]

lemma port_of_not_isDigit {url : Url} (h : ∃ c ∈ url.hostAndPort.2, Text.isDigit c = false) :
    url.port = .invalid := by
  obtain ⟨c, hc, hdigit⟩ := h
  have hne : url.hostAndPort.2.isEmpty = false := by
    rw [Bool.eq_false_iff, Ne, List.isEmpty_iff]
    exact List.ne_nil_of_mem hc
  have hall : url.hostAndPort.2.all Text.isDigit = false := by
    rw [List.all_eq_false]
    exact ⟨c, hc, by simp [hdigit]⟩
  simp [port, hne, hall]

end Url

namespace Endpoint

variable {shown : String} {scheme : Scheme} {spelling authority tail : List Char}

lemma isLetter_of_spelling (h : spelling.map Char.toLower = scheme.name.toList) :
    spelling ≠ [] ∧ ∀ c ∈ spelling, Text.isLetter c = true := by
  have hname : scheme.name.toList ≠ [] ∧ ∀ c ∈ scheme.name.toList, Text.isLetter c = true := by
    cases scheme <;> simp [Scheme.name, Text.isLetter]
  rw [← h] at hname
  refine ⟨by simpa using hname.1, ?_⟩
  intro c hc
  rw [← Text.isLetter_toLower]
  exact hname.2 _ (List.mem_map_of_mem hc)

lemma ofName?_name (scheme : Scheme) : Scheme.ofName? scheme.name.toList = some scheme := by
  cases scheme <;> decide

/-- A text that is put together from a scheme, an authority that can be split, and a path, query or
fragment, if there is one, is read as what the authority says. -/
lemma parse_of_parts (htext : plainText shown = spelling ++ schemeMark ++ (authority ++ tail))
    (hspelling : spelling.map Char.toLower = scheme.name.toList)
    (hauthority : ∀ c ∈ authority, Url.endsAuthority c = false ∧ Url.isDropped c = false)
    (hsound : Url.isSound authority = true)
    (htail : ∀ c ∈ tail.head?, Url.endsAuthority c = true)
    (hhost : (⟨scheme.name.toList, authority⟩ : Url).host ≠ []) :
    parse shown = (portOr scheme.defaultPort shown (⟨scheme.name.toList, authority⟩ : Url).port).map
      fun port => ⟨scheme, String.ofList (⟨scheme.name.toList, authority⟩ : Url).host, port⟩ := by
  obtain ⟨hne, hletters⟩ := isLetter_of_spelling hspelling
  have hopens := Url.opens_of_parts hne hletters (fun c hc => (hauthority c hc).2) tail
  have hwhole : (authority ++ tail.filter (!Url.isDropped ·)).takeWhile (!Url.endsAuthority ·) =
      authority := by
    have hall : ∀ c ∈ authority, (!Url.endsAuthority c) = true := by
      intro c hc
      simp [(hauthority c hc).1]
    rw [List.takeWhile_append_of_pos hall]
    cases tail with
    | nil => simp
    | cons c rest =>
      have hends : Url.endsAuthority c = true := htail c rfl
      have hkept : Url.isDropped c = false := Url.isDropped_of_endsAuthority hends
      simp [hends, hkept]
  rw [← htext] at hopens
  have hsplit : Url.split? (plainText shown) = some ⟨scheme.name.toList, authority⟩ := by
    rw [hopens.split?_eq, hwhole, if_pos hsound, hspelling]
  rw [plainText] at hsplit
  have hsome : (⟨scheme.name.toList, authority⟩ : Url).host.isEmpty = false := by simpa using hhost
  simp only [parse, hsplit, ofUrl, ofName?_name, hsome]
  cases portOr scheme.defaultPort shown (⟨scheme.name.toList, authority⟩ : Url).port <;> rfl

end Endpoint
end Metastore
