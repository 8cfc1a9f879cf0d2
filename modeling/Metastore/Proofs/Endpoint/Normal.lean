import Metastore.Proofs.Endpoint.Parts

/-!
# Endpoints in normal form

What is read from a text of ASCII is in normal form: the host is in lower case and has no delimiter in it,
and there is a port. Written down again it is read as itself (`Endpoint.normal_of_parse`).
-/

namespace Metastore

namespace Url

open Text (IsAscii)
open Endpoint.Address (isBracketed)

variable {url : Url} {cs : List Char}

/-! ### Hosts in lower case -/

lemma isAscii_lowered (h : IsAscii cs) : IsAscii (lowered cs) := by
  rcases lowered_cases h with ⟨front, zone, -, rfl, hlowered⟩ | ⟨-, hlowered⟩
  · rw [Text.isAscii_append] at h
    rw [hlowered, Text.isAscii_append]
    exact ⟨Text.isAscii_map_toLower h.1, h.2⟩
  · rw [hlowered]
    exact Text.isAscii_map_toLower h

/-- No capital letter is left in front of a zone. -/
lemma isUpper_lowered (h : IsAscii cs) :
    ∀ c ∈ (lowered cs).takeWhile (· != '%'), c.isUpper = false := by
  have hmap (front : List Char) : ∀ c ∈ front.map Char.toLower, c.isUpper = false := by
    intro c hc
    obtain ⟨d, -, rfl⟩ := List.mem_map.mp hc
    exact Char.isUpper_toLower_eq_false d
  rcases lowered_cases h with ⟨front, zone, hfront, -, hlowered⟩ | ⟨-, hlowered⟩
  · have hkept := Text.bne_of_not_mem (not_mem_map_toLower rfl hfront)
    simp [hlowered, List.takeWhile_append_of_pos hkept]
  · rw [hlowered]
    exact fun c hc => hmap cs c (List.takeWhile_subset _ hc)

/-- A host without capital letters in front of a zone stays as it is. -/
lemma lowered_eq_self (h : IsAscii cs)
    (hlower : ∀ c ∈ cs.takeWhile (· != '%'), c.isUpper = false) : lowered cs = cs := by
  have hkept : ∀ c ∈ cs.takeWhile (· != '%'), c.toLower = id c := by
    intro c hc
    exact Char.toLower_eq_of_not_isUpper (by simp [hlower c hc])
  rw [lowered, Text.lowerAfter_of_isAscii (h.mono (List.takeWhile_subset _)),
    List.map_congr_left hkept, List.map_id, List.takeWhile_append_dropWhile]

/-! ### What is split off -/

lemma hostAndPort_subset (url : Url) : url.hostAndPort.1 ⊆ hostPart url.authority := by
  rw [hostAndPort]
  rcases Text.cutAt_cases '[' (hostPart url.authority) with ⟨before, inside, heq, -, hcut⟩ | ⟨-, hcut⟩
  · simp only [hcut]
    rw [heq]
    exact fun c hc => List.mem_append_right _ (List.mem_cons_of_mem _ (Text.cutAt_subset ']' inside hc))
  · simp only [hcut]
    exact Text.cutAt_subset ':' _

/-- A host with a colon in it was written in brackets, or is let through as if it was: it is an address. -/
lemma isBracketed_of_colon (h : Splits url.authority) (hcolon : ':' ∈ url.hostAndPort.1) :
    isBracketed url.hostAndPort.1 = true := by
  have hplain (hopen : '[' ∉ hostPart url.authority) :
      url.hostAndPort.1 = (Text.cutAt ':' (hostPart url.authority)).1 := by
    simp only [hostAndPort, Text.cutAt_of_not_mem hopen]
  rcases h.brackets with ⟨hopen, -⟩ | ⟨-, -, hfit⟩
  · rw [hplain (mt ((Text.afterLast_suffix _ _).subset ·) hopen)] at hcolon
    exact absurd hcolon (Text.not_mem_cutAt ':' _)
  · generalize hpart : hostPart url.authority = part at hfit hplain
    cases hfit with
    | closed hclose haddress =>
      simpa only [hostAndPort, hpart, Text.cutAt_cons, Text.cutAt_append_cons hclose] using haddress
    | withPort hclose haddress =>
      simpa only [hostAndPort, hpart, Text.cutAt_cons, Text.cutAt_append_cons hclose] using haddress
    | unclosed hclose haddress =>
      simpa only [hostAndPort, hpart, Text.cutAt_cons, Text.cutAt_of_not_mem hclose] using haddress
    | outside hopen haddress =>
      -- the brackets are in the user information; the host is an address by itself
      rwa [hplain hopen]

/-- No character of an authority ends it or is dropped. -/
lemma kept_of_split? (h : split? cs = some url) (hscheme : url.scheme ≠ []) (hhost : url.host ≠ []) :
    ∀ c ∈ url.authority, c ∈ cs ∧ endsAuthority c = false ∧ isDropped c = false := by
  obtain ⟨before, rest, hopens, -, hauthority, -⟩ := opens_of_split? h hscheme hhost
  intro c hc
  rw [hauthority] at hc
  have hclean : c ∈ clean cs := by
    rw [hopens.clean_eq]
    simp [List.takeWhile_subset _ hc]
  refine ⟨clean_subset cs hclean, by simpa using List.mem_takeWhile_imp hc, ?_⟩
  rw [clean, List.mem_filter] at hclean
  simpa using hclean.2

lemma port_le {n : Nat} (h : url.port = .number n) : n ≤ 65535 := by
  rw [port] at h
  split at h
  · cases h
  · split at h
    · split at h
      · split at h
        · next hsmall => exact PortText.number.inj h ▸ hsmall
        · cases h
      · cases h
    · cases h

end Url

namespace Endpoint

open Text (IsAscii isBlank)

variable {shown : String} {e : Endpoint}

/-! ### Endpoints written down -/

/-- Host and port as they are written down, with brackets around a host with a colon in it. -/
def authority (e : Endpoint) : List Char :=
  (if ':' ∈ e.host.toList then '[' :: (e.host.toList ++ [']']) else e.host.toList) ++
    ':' :: Text.decimal e.port

/-- An endpoint as it is written down. -/
def text (e : Endpoint) : String := String.ofList (e.scheme.name.toList ++ schemeMark ++ e.authority)

/-- Whether an endpoint is in normal form. -/
structure IsNormal (e : Endpoint) : Prop where
  host_ne : e.host ≠ ""
  ascii : IsAscii e.host.toList
  apart : ∀ c ∈ e.host.toList, c ∉ ['/', '?', '#', '@', '\t', '\r', '\n']
  lower : ∀ c ∈ e.host.toList.takeWhile (· != '%'), c.isUpper = false
  port_pos : 1 ≤ e.port
  port_le : e.port ≤ 65535

/-! ### What is read is in normal form -/

/-- Whether an endpoint is what a URL of ASCII says. -/
structure SaidBy (e : Endpoint) (url : Url) : Prop where
  splits : Url.Splits url.authority
  ascii : IsAscii url.authority
  kept : ∀ c ∈ url.authority, Url.endsAuthority c = false ∧ Url.isDropped c = false
  host_eq : e.host.toList = Url.lowered url.hostAndPort.1
  host_ne_nil : e.host.toList ≠ []
  port_eq : ∃ shown, portOr e.scheme.defaultPort shown url.port = .ok e.port

lemma exists_saidBy (hascii : IsAscii shown.toList) (h : parse shown = .ok e) : ∃ url, SaidBy e url := by
  obtain ⟨url, hsplit, hscheme, hhost, heq, hport⟩ := parse_eq_ok h
  have hscheme_ne : url.scheme ≠ [] := by
    intro hnil
    rw [hnil] at hscheme
    simp [Scheme.ofName?] at hscheme
  have hkept := Url.kept_of_split? hsplit hscheme_ne hhost
  have htrimmed : IsAscii (Text.trimBy isBlank shown.toList) :=
    hascii.mono (Text.trimBy_infix _ _).subset
  have hplain : IsAscii (plainText shown) :=
    forall_mem_withScheme (by simp [Scheme.name, schemeMark]) htrimmed
  obtain ⟨-, -, -, -, -, hsound⟩ := Url.opens_of_split? hsplit hscheme_ne hhost
  refine ⟨url, Url.isSound_iff.mp hsound, fun c hc => hplain c (hkept c hc).1,
    fun c hc => (hkept c hc).2, ?_, ?_, shown, hport⟩
  · rw [← heq, String.toList_ofList]
    rfl
  · rwa [← heq, String.toList_ofList]

namespace SaidBy

variable {url : Url}

lemma subset_authority (url : Url) : url.hostAndPort.1 ⊆ url.authority :=
  List.Subset.trans (Url.hostAndPort_subset url) (Text.afterLast_suffix _ _).subset

lemma isAscii_written (h : SaidBy e url) : IsAscii url.hostAndPort.1 := h.ascii.mono (subset_authority url)

lemma mem_host_iff (h : SaidBy e url) {c : Char} (hc : Text.isLetter c = false) :
    c ∈ e.host.toList ↔ c ∈ url.hostAndPort.1 := by
  rw [h.host_eq, Url.mem_lowered_iff h.isAscii_written hc]

/-- A delimiter is no part of a host. -/
lemma not_mem_host (h : SaidBy e url) {c : Char} (hc : c ∈ ['/', '?', '#', '@', '\t', '\r', '\n']) :
    c ∉ e.host.toList := by
  have hletter : Text.isLetter c = false := by
    revert c
    simp [Text.isLetter]
  rw [h.mem_host_iff hletter]
  intro hmem
  obtain ⟨hends, hdropped⟩ := h.kept c (subset_authority url hmem)
  have hat : '@' ∉ url.hostAndPort.1 := fun hat =>
    Text.not_mem_afterLast '@' url.authority (Url.hostAndPort_subset url hat)
  simp only [List.mem_cons, List.not_mem_nil, or_false] at hc
  rcases hc with rfl | rfl | rfl | rfl | rfl | rfl | rfl
  · cases hends
  · cases hends
  · cases hends
  · exact hat hmem
  · cases hdropped
  · cases hdropped
  · cases hdropped

lemma port_bounds (h : SaidBy e url) : 1 ≤ e.port ∧ e.port ≤ 65535 := by
  have hdefault : 1 ≤ e.scheme.defaultPort ∧ e.scheme.defaultPort ≤ 65535 := by
    cases e.scheme <;> simp [Scheme.defaultPort]
  obtain ⟨shown, hport⟩ := h.port_eq
  cases hwritten : url.port with
  | absent =>
    rw [hwritten] at hport
    rwa [← Except.ok.inj hport]
  | number n =>
    have hsmall := Url.port_le hwritten
    rw [hwritten, portOr] at hport
    rw [← Except.ok.inj hport]
    split
    · exact hdefault
    · omega
  | invalid =>
    rw [hwritten] at hport
    cases hport

lemma isNormal (h : SaidBy e url) : e.IsNormal where
  host_ne := by simpa using h.host_ne_nil
  ascii := by
    rw [h.host_eq]
    exact Url.isAscii_lowered h.isAscii_written
  apart := fun _ hmem hc => h.not_mem_host hc hmem
  lower := by
    rw [h.host_eq]
    exact Url.isUpper_lowered h.isAscii_written
  port_pos := h.port_bounds.1
  port_le := h.port_bounds.2

/-- A host with a colon in it is an address, in lower case too. -/
lemma isBracketed_host (h : SaidBy e url) (hcolon : ':' ∈ e.host.toList) :
    Address.isBracketed e.host.toList = true := by
  rw [h.mem_host_iff rfl] at hcolon
  rw [h.host_eq]
  exact Url.isBracketed_lowered h.isAscii_written (Url.isBracketed_of_colon h.splits hcolon)

end SaidBy

/-! ### Reading it again -/

namespace IsNormal

/-- No character that is written down for host and port ends an authority or is dropped. -/
lemma kept (h : e.IsNormal) {c : Char} (hc : c ∈ e.authority) :
    Url.endsAuthority c = false ∧ Url.isDropped c = false := by
  -- what is written is the host, signs that are put in, and the digits of the port
  have hcases : c ∈ e.host.toList ∨ c ∈ ['[', ']', ':'] ∨ Text.isDigit c = true := by
    rw [authority, List.mem_append, List.mem_cons] at hc
    rcases hc with hhost | rfl | hdigit
    · split at hhost
      · simp only [List.mem_cons, List.mem_append, List.not_mem_nil, or_false] at hhost ⊢
        tauto
      · exact .inl hhost
    · simp
    · exact .inr (.inr (Text.isDigit_of_mem_decimal hdigit))
  rcases hcases with hhost | hsign | hdigit
  · have hapart := h.apart c hhost
    simp only [List.mem_cons, List.not_mem_nil, or_false, not_or] at hapart
    simp [Url.endsAuthority, Url.isDropped, hapart]
  · simp only [List.mem_cons, List.not_mem_nil, or_false] at hsign
    rcases hsign with rfl | rfl | rfl <;> exact ⟨rfl, rfl⟩
  · exact Url.kept_of_isDigit hdigit

lemma isAscii_authority (h : e.IsNormal) : IsAscii e.authority := by
  have hdigits : IsAscii (Text.decimal e.port) := Text.isAscii_toDigits (by decide) (by decide) _
  have hhost := h.ascii
  rw [authority]
  split <;> simp [hhost, hdigits]

lemma hostPart_authority (h : e.IsNormal) : Url.hostPart e.authority = e.authority := by
  have hhost : '@' ∉ e.host.toList := fun hmem => h.apart _ hmem (by simp)
  have hdigits : '@' ∉ Text.decimal e.port := Text.not_mem_decimal rfl _
  apply Text.afterLast_of_not_mem
  rw [authority]
  split <;> simp [hhost, hdigits]

/-- The authority is split where it was put together. -/
lemma hostAndPort_authority (h : e.IsNormal) (hopen : '[' ∉ e.host.toList)
    (hclose : ']' ∉ e.host.toList) (scheme : List Char) :
    (⟨scheme, e.authority⟩ : Url).hostAndPort = (e.host.toList, Text.decimal e.port) := by
  have hpart := h.hostPart_authority
  by_cases hcolon : ':' ∈ e.host.toList
  · refine Url.hostAndPort_of_bracketed ?_ hclose
    rw [hpart]
    simp [authority, hcolon]
  · have hdigits : '[' ∉ Text.decimal e.port := Text.not_mem_decimal rfl _
    have hplain : Url.hostPart e.authority = e.host.toList ++ ':' :: Text.decimal e.port := by
      rw [hpart]
      simp [authority, hcolon]
    exact Url.hostAndPort_of_plain hplain (by simp [hopen, hdigits]) hcolon (.inr rfl)

lemma splits_authority (h : e.IsNormal) (hopen : '[' ∉ e.host.toList)
    (hclose : ']' ∉ e.host.toList)
    (haddress : ':' ∈ e.host.toList → Address.isBracketed e.host.toList = true) :
    Url.Splits e.authority := by
  refine ⟨?_, fun c hc => Url.not_mem_disguisedDelimiters (h.isAscii_authority c hc)⟩
  by_cases hcolon : ':' ∈ e.host.toList
  · have heq : e.authority = '[' :: (e.host.toList ++ ']' :: ':' :: Text.decimal e.port) := by
      simp [authority, hcolon]
    refine .inr ⟨by simp [heq], by simp [heq], ?_⟩
    rw [h.hostPart_authority, heq]
    exact .withPort hclose (haddress hcolon)
  · left
    simp [authority, hcolon, hopen, hclose, Text.not_mem_decimal (c := '[') rfl,
      Text.not_mem_decimal (c := ']') rfl]

end IsNormal

lemma trimBy_text (e : Endpoint) :
    Text.trimBy isBlank e.text.toList = e.scheme.name.toList ++ schemeMark ++ e.authority := by
  have hfirst : ∃ c ∈ (e.scheme.name.toList ++ schemeMark ++ e.authority).head?, isBlank c = false := by
    cases e.scheme <;> exact ⟨'h', rfl, by decide⟩
  have hlast : ∃ c ∈ (e.scheme.name.toList ++ schemeMark ++ e.authority).getLast?,
      isBlank c = false := by
    have hdigits : Text.decimal e.port ≠ [] := Nat.toDigits_ne_nil
    have hdigit := Text.isDigit_of_mem_decimal (List.getLast_mem hdigits)
    refine ⟨(Text.decimal e.port).getLast hdigits, ?_, ?_⟩
    · simp [authority, List.getLast?_cons, List.getLast?_eq_some_getLast hdigits]
    · by_contra hblank
      rw [Text.isDigit_of_isBlank (by simpa using hblank)] at hdigit
      cases hdigit
  rw [text, String.toList_ofList]
  exact Text.trimBy_eq_self hfirst hlast

lemma plainText_text (e : Endpoint) :
    plainText e.text = e.scheme.name.toList ++ schemeMark ++ (e.authority ++ []) := by
  have hmark : Text.hasInfix schemeMark (Text.trimBy isBlank e.text.toList) = true := by
    rw [Text.hasInfix_iff, trimBy_text]
    exact ⟨e.scheme.name.toList, e.authority, rfl⟩
  rw [plainText, withScheme, if_pos hmark, trimBy_text, List.append_nil]

/-- An endpoint in normal form is read as itself where it is written down, if a host with a colon in it is an
address. -/
lemma parse_text (h : e.IsNormal) (hopen : '[' ∉ e.host.toList) (hclose : ']' ∉ e.host.toList)
    (haddress : ':' ∈ e.host.toList → Address.isBracketed e.host.toList = true) :
    parse e.text = .ok e := by
  have hparts := h.hostAndPort_authority hopen hclose e.scheme.name.toList
  have hhost : (⟨e.scheme.name.toList, e.authority⟩ : Url).host = e.host.toList := by
    show Url.lowered (⟨e.scheme.name.toList, e.authority⟩ : Url).hostAndPort.1 = _
    rw [hparts]
    exact Url.lowered_eq_self h.ascii h.lower
  have hport : (⟨e.scheme.name.toList, e.authority⟩ : Url).port = .number e.port := by
    rw [Url.port_of_decimal (by rw [hparts]), if_pos h.port_le]
  have hname : e.scheme.name.toList.map Char.toLower = e.scheme.name.toList := by
    cases e.scheme <;> decide
  have hsound := Url.isSound_iff.mpr (h.splits_authority hopen hclose haddress)
  rw [parse_of_parts (plainText_text e) hname (fun c hc => h.kept hc) hsound (by simp)
    (by simpa [hhost] using h.host_ne), hhost, hport, portOr, String.ofList_toList,
    if_neg (Nat.ne_of_gt h.port_pos)]
  rfl

/-- What is read from a text of ASCII is in normal form, and unless brackets are left in the host it is
written down as a text that is read as the same endpoint. -/
theorem normal_of_parse (hascii : IsAscii shown.toList) (h : parse shown = .ok e) :
    e.IsNormal ∧ ('[' ∉ e.host.toList → ']' ∉ e.host.toList → parse e.text = .ok e) := by
  obtain ⟨url, hsaid⟩ := exists_saidBy hascii h
  refine ⟨hsaid.isNormal, ?_⟩
  intro hopen hclose
  exact parse_text hsaid.isNormal hopen hclose hsaid.isBracketed_host

/-- The zone of an address keeps its capital letters, and the address its brackets. -/
theorem normal_of_parse_zone :
    IsNormal ⟨.https, "fe80::a%Eth0", 443⟩ ∧
      parse " HTTPS://u@[FE80::A%Eth0]:0/x" = .ok ⟨.https, "fe80::a%Eth0", 443⟩ ∧
        parse "https://[fe80::a%Eth0]:443" = .ok ⟨.https, "fe80::a%Eth0", 443⟩ := by
  have hread : parse " HTTPS://u@[FE80::A%Eth0]:0/x" = .ok ⟨.https, "fe80::a%Eth0", 443⟩ := by
    decide +kernel
  obtain ⟨hnormal, hagain⟩ := normal_of_parse (by simp) hread
  exact ⟨hnormal, hread, hagain (by simp) (by simp)⟩

end Endpoint
end Metastore
