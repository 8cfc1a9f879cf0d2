import Metastore.Proofs.Endpoint.Parts

/-!
# The grammar of endpoints

The parts that an endpoint may be written with, and what it means: a scheme in any letter case or none, user
information, a host, a port, and a path, query or fragment, with white space around it all. Each endpoint
that is written so is read as what it means (`Endpoint.parse_written`).
-/

namespace Metastore.Endpoint

open Text (isBlank)

/-- What may be written for a port: nothing, a colon by itself, a colon with a number, or a colon with a
word. -/
inductive WrittenPort where
  | absent
  | empty
  | number (n : Nat)
  | word (cs : List Char)

namespace WrittenPort

/-- A port as it is written; a number has no zeros in front. -/
def text : WrittenPort → List Char
  | absent => []
  | empty => [':']
  | number n => ':' :: Text.decimal n
  | word cs => ':' :: cs

/-- The port that is meant, if one is: nothing and zero mean the default. -/
def meaning? (default : Nat) : WrittenPort → Option Nat
  | absent => some default
  | empty => some default
  | number n => if n = 0 then some default else if n ≤ 65535 then some n else none
  | word _ => none

/-- Whether a port may be written so: a word has letters and digits, and some letter. -/
def IsWellFormed : WrittenPort → Prop
  | word cs => (∀ c ∈ cs, Text.isLetter c = true ∨ Text.isDigit c = true) ∧
      ∃ c ∈ cs, Text.isLetter c = true
  | _ => True

end WrittenPort

/-- The parts of an endpoint as it is written. -/
structure Written where
  before : List Char := []
  /-- The scheme and how it is spelled. -/
  scheme : Option (Scheme × List Char) := none
  user : Option (List Char) := none
  host : List Char
  port : WrittenPort := .absent
  rest : List Char := []
  after : List Char := []

/-- Characters of user information: what is printable in ASCII, without the space, what ends an authority,
and brackets. -/
def IsUserChar (c : Char) : Prop := 33 ≤ c.toNat ∧ c.toNat ≤ 126 ∧ c ∉ ['/', '?', '#', '[', ']']

/-- Characters of a host. -/
def IsHostChar (c : Char) : Prop :=
  Text.isLetter c = true ∨ Text.isDigit c = true ∨ c ∈ ['.', '-', '_']

namespace Written

/-- The scheme that is meant; without one it is http. -/
def meantScheme (w : Written) : Scheme := w.scheme.elim .http (·.1)

/-- The scheme as it is written, with its mark. -/
def schemeText (w : Written) : List Char := w.scheme.elim [] (·.2 ++ schemeMark)

/-- User information, host and port as they are written. -/
def authority (w : Written) : List Char := w.user.elim [] (· ++ ['@']) ++ (w.host ++ w.port.text)

/-- The endpoint as it is written. -/
def text (w : Written) : String :=
  String.ofList (w.before ++ (w.schemeText ++ w.authority ++ (w.rest ++ w.after)))

/-- What the endpoint means; a port that is none is complained of. -/
def meaning (w : Written) : Except Problem Endpoint :=
  match w.port.meaning? w.meantScheme.defaultPort with
  | some port => .ok ⟨w.meantScheme, String.ofList (w.host.map Char.toLower), port⟩
  | none => .error (.config (.portInvalid w.text))

/-- Whether an endpoint may be written so. Without a scheme, the mark of one may stand nowhere in it. -/
structure IsWellFormed (w : Written) : Prop where
  before_blank : ∀ c ∈ w.before, isBlank c = true
  spelling : ∀ s ∈ w.scheme, s.2.map Char.toLower = s.1.name.toList
  unmarked : w.scheme = none → ¬ schemeMark <:+: w.text.toList
  user_plain : ∀ user ∈ w.user, ∀ c ∈ user, IsUserChar c
  host_ne_nil : w.host ≠ []
  host_plain : ∀ c ∈ w.host, IsHostChar c
  port_plain : w.port.IsWellFormed
  rest_apart : ∀ c ∈ w.rest.head?, c ∈ ['/', '?', '#']
  after_blank : ∀ c ∈ w.after, isBlank c = true

end Written

/-! ### Characters -/

variable {c : Char}

lemma isUserChar_of_alphanumeric (h : Text.isLetter c = true ∨ Text.isDigit c = true) :
    IsUserChar c := by
  rw [Text.isLetter_iff, Text.isDigit_iff] at h
  refine ⟨by omega, by omega, ?_⟩
  simp only [List.mem_cons, List.not_mem_nil, or_false]
  rintro (rfl | rfl | rfl | rfl | rfl) <;> revert h <;> decide

lemma isUserChar_of_isHostChar (h : IsHostChar c) : IsUserChar c := by
  rcases h with hletter | hdigit | hsign
  · exact isUserChar_of_alphanumeric (.inl hletter)
  · exact isUserChar_of_alphanumeric (.inr hdigit)
  · simp only [List.mem_cons, List.not_mem_nil, or_false] at hsign
    rcases hsign with rfl | rfl | rfl <;> simp [IsUserChar]

namespace IsUserChar

lemma isBlank_eq (h : IsUserChar c) : isBlank c = false := by
  obtain ⟨hlow, hhigh, -⟩ := h
  rw [Bool.eq_false_iff]
  simp only [isBlank, Text.blankRanges, Text.inRanges]
  grind

lemma isPlain (h : IsUserChar c) : Url.IsPlain c := by
  obtain ⟨-, hhigh, hsign⟩ := h
  simp only [List.mem_cons, List.not_mem_nil, or_false, not_or] at hsign
  exact ⟨by omega, hsign.2.2.2.1, hsign.2.2.2.2⟩

lemma kept (h : IsUserChar c) : Url.endsAuthority c = false ∧ Url.isDropped c = false := by
  obtain ⟨hlow, -, hsign⟩ := h
  simp only [List.mem_cons, List.not_mem_nil, or_false, not_or] at hsign
  refine ⟨by simp [Url.endsAuthority, hsign], Url.isDropped_of_not_isLeading ?_⟩
  simp only [Url.isLeading, decide_eq_false_iff_not]
  omega

end IsUserChar

/-! ### Ports -/

namespace WrittenPort

variable {p : WrittenPort}

lemma of_mem_text (h : p.IsWellFormed) (hc : c ∈ p.text) :
    c = ':' ∨ Text.isLetter c = true ∨ Text.isDigit c = true := by
  cases p with
  | absent => simp [text] at hc
  | empty => exact .inl (by simpa [text] using hc)
  | number n =>
    rw [text, List.mem_cons] at hc
    exact hc.imp_right fun hdigit => .inr (Text.isDigit_of_mem_decimal hdigit)
  | word cs =>
    rw [text, List.mem_cons] at hc
    exact hc.imp_right (h.1 c)

lemma head?_text (p : WrittenPort) : p.text = [] ∨ p.text.head? = some ':' := by
  cases p with
  | absent => exact .inl rfl
  | _ => exact .inr rfl

/-- The port that is read is the one that is meant. -/
lemma portOr_text (h : p.IsWellFormed) {url : Url} (hwritten : url.hostAndPort.2 = p.text.tail)
    (default : Nat) (shown : String) :
    portOr default shown url.port =
      match p.meaning? default with
      | some port => .ok port
      | none => .error (.config (.portInvalid shown)) := by
  cases p with
  | absent =>
    rw [Url.port_of_nil hwritten]
    rfl
  | empty =>
    rw [Url.port_of_nil hwritten]
    rfl
  | number n =>
    rw [Url.port_of_decimal hwritten, meaning?]
    by_cases hzero : n = 0
    · simp [hzero, portOr]
    · by_cases hsmall : n ≤ 65535
      · simp [hzero, hsmall, portOr]
      · simp [hzero, hsmall, portOr]
  | word cs =>
    obtain ⟨c, hc, hletter⟩ := h.2
    have hdigit : Text.isDigit c = false := by
      rw [Bool.eq_false_iff, Ne, Text.isDigit_iff]
      rw [Text.isLetter_iff] at hletter
      omega
    rw [Url.port_of_not_isDigit ⟨c, by rw [hwritten]; exact hc, hdigit⟩]
    rfl

end WrittenPort

namespace Written

variable {w : Written}

/-! ### Host and port -/

lemma isUserChar_of_mem_authority (h : w.IsWellFormed) (hc : c ∈ w.authority) : IsUserChar c := by
  rw [authority, List.mem_append, List.mem_append] at hc
  rcases hc with huser | hhost | hport
  · cases hwritten : w.user with
    | none => simp [hwritten] at huser
    | some user =>
      have hmem : c ∈ user ∨ c = '@' := by simpa [hwritten] using huser
      rcases hmem with hmem | rfl
      · exact h.user_plain user hwritten c hmem
      · simp [IsUserChar]
  · exact isUserChar_of_isHostChar (h.host_plain c hhost)
  · rcases WrittenPort.of_mem_text h.port_plain hport with rfl | halphanumeric
    · simp [IsUserChar]
    · exact isUserChar_of_alphanumeric halphanumeric

lemma not_mem_host (h : w.IsWellFormed) (hletter : Text.isLetter c = false)
    (hdigit : Text.isDigit c = false) (hsign : c ∉ ['.', '-', '_']) : c ∉ w.host := by
  intro hmem
  rcases h.host_plain c hmem with hc | hc | hc
  · simp [hletter] at hc
  · simp [hdigit] at hc
  · exact hsign hc

/-- Only user information may have the sign that ends it. -/
lemma not_mem_port (h : w.IsWellFormed) : '@' ∉ w.port.text := by
  intro hmem
  exact absurd (WrittenPort.of_mem_text h.port_plain hmem) (by decide)

lemma hostPart_authority (h : w.IsWellFormed) :
    Url.hostPart w.authority = w.host ++ w.port.text := by
  have hat : '@' ∉ w.host ++ w.port.text := by
    rw [List.mem_append, not_or]
    exact ⟨not_mem_host h rfl rfl (by decide), not_mem_port h⟩
  cases huser : w.user with
  | none => simpa [authority, huser, Url.hostPart] using Text.afterLast_of_not_mem hat
  | some user => simpa [authority, huser] using Url.hostPart_of_user hat

lemma hostAndPort_authority (h : w.IsWellFormed) (scheme : List Char) :
    (⟨scheme, w.authority⟩ : Url).hostAndPort = (w.host, w.port.text.tail) := by
  apply Url.hostAndPort_of_plain (hostPart_authority h)
  · intro hmem
    have huser : '[' ∈ w.authority := List.mem_append_right _ hmem
    exact (isUserChar_of_mem_authority h huser).isPlain.2.1 rfl
  · exact not_mem_host h rfl rfl (by decide)
  · exact w.port.head?_text

/-- A host is put in lower case letter by letter. -/
lemma host_authority (h : w.IsWellFormed) (scheme : List Char) :
    (⟨scheme, w.authority⟩ : Url).host = w.host.map Char.toLower := by
  have hascii : Text.IsAscii w.host := fun c hc => (isUserChar_of_isHostChar (h.host_plain c hc)).isPlain.1
  have hzone : '%' ∉ w.host := not_mem_host h rfl rfl (by decide)
  rcases Url.lowered_cases hascii with ⟨front, zone, -, hhost, -⟩ | ⟨-, hlowered⟩
  · exact absurd (by simp [hhost]) hzone
  · show Url.lowered (⟨scheme, w.authority⟩ : Url).hostAndPort.1 = _
    rw [hostAndPort_authority h, hlowered]

/-! ### The whole text -/

/-- What is left behind the authority once the endpoint is trimmed. -/
def tail (w : Written) : List Char := (w.rest ++ w.after).rdropWhile isBlank

lemma endsAuthority_of_mem_tail (h : w.IsWellFormed) :
    ∀ c ∈ w.tail.head?, Url.endsAuthority c = true := by
  intro c hc
  obtain ⟨more, htail⟩ := List.head?_eq_some_iff.mp hc
  have hprefix : c :: more <+: w.rest ++ w.after := htail ▸ List.rdropWhile_prefix isBlank _
  cases hrest : w.rest with
  | nil =>
    -- white space alone is trimmed off
    have hnil : w.tail = [] := by
      rw [tail, hrest, List.nil_append, List.rdropWhile_eq_nil_iff]
      exact h.after_blank
    simp [hnil] at htail
  | cons d rest =>
    rw [hrest, List.cons_append] at hprefix
    obtain ⟨rfl, -⟩ := List.cons_prefix_cons.mp hprefix
    have hsign := h.rest_apart c (by rw [hrest]; rfl)
    simpa [Url.endsAuthority, or_assoc] using hsign

lemma isBlank_of_mem_core (h : w.IsWellFormed) (hc : c ∈ w.schemeText ++ w.authority) :
    isBlank c = false := by
  have hletter {d : Char} (hd : Text.isLetter d = true) : isBlank d = false :=
    (isUserChar_of_alphanumeric (.inl hd)).isBlank_eq
  rcases List.mem_append.mp hc with hscheme | hauthority
  · cases hwritten : w.scheme with
    | none => simp [schemeText, hwritten] at hscheme
    | some s =>
      have hmem : c ∈ s.2 ∨ c ∈ schemeMark := by
        simpa [schemeText, hwritten] using hscheme
      rcases hmem with hmem | hmem
      · exact hletter ((isLetter_of_spelling (h.spelling s hwritten)).2 c hmem)
      · have hmark : ∀ d ∈ schemeMark, isBlank d = false := by
          simp [schemeMark, isBlank, Text.blankRanges, Text.inRanges]
        exact hmark c hmem
  · exact (isUserChar_of_mem_authority h hauthority).isBlank_eq

lemma trimBy_text (h : w.IsWellFormed) :
    Text.trimBy isBlank w.text.toList = w.schemeText ++ (w.authority ++ w.tail) := by
  have hne : w.schemeText ++ w.authority ≠ [] := by simp [authority, h.host_ne_nil]
  obtain ⟨first, more, hfirst⟩ := List.exists_cons_of_ne_nil hne
  have hlast := List.getLast?_eq_some_getLast hne
  rw [text, String.toList_ofList, Text.trimBy_append h.before_blank, tail, List.append_assoc]
  · exact ⟨first, by rw [hfirst]; rfl, isBlank_of_mem_core h (by rw [hfirst]; exact List.mem_cons_self)⟩
  · exact ⟨_, hlast, isBlank_of_mem_core h (List.getLast_mem hne)⟩

/-- The text that is split begins with a spelling of the scheme that is meant. -/
lemma exists_plainText (h : w.IsWellFormed) :
    ∃ spelling, spelling.map Char.toLower = w.meantScheme.name.toList ∧
      plainText w.text = spelling ++ schemeMark ++ (w.authority ++ w.tail) := by
  rw [plainText]
  have htrimmed : Text.trimBy isBlank w.text.toList <:+: w.text.toList := Text.trimBy_infix _ _
  cases hscheme : w.scheme with
  | none =>
    -- no mark anywhere, so the default scheme is put in front
    have hunmarked : ¬ Text.hasInfix schemeMark (Text.trimBy isBlank w.text.toList) = true := by
      rw [Text.hasInfix_iff]
      exact fun hmark => h.unmarked hscheme (hmark.trans htrimmed)
    refine ⟨Scheme.http.name.toList, by simp [meantScheme, hscheme, Scheme.name], ?_⟩
    rw [withScheme, if_neg hunmarked, trimBy_text h]
    simp [schemeText, hscheme]
  | some s =>
    have hmarked : Text.hasInfix schemeMark (Text.trimBy isBlank w.text.toList) = true := by
      rw [Text.hasInfix_iff, trimBy_text h]
      exact ⟨s.2, w.authority ++ w.tail, by simp [schemeText, hscheme]⟩
    refine ⟨s.2, by simpa [meantScheme, hscheme] using h.spelling s hscheme, ?_⟩
    rw [withScheme, if_pos hmarked, trimBy_text h]
    simp [schemeText, hscheme]

end Written

/-- Every endpoint that is written by the grammar is read as what it means: the scheme and the host in lower
case, and the port, or the default of the scheme where none or zero is written. A port that is a number too
large or a word is complained of. -/
theorem parse_written {w : Written} (h : w.IsWellFormed) : parse w.text = w.meaning := by
  obtain ⟨spelling, hspelling, htext⟩ := Written.exists_plainText h
  have hplain : ∀ c ∈ w.authority, Url.IsPlain c :=
    fun c hc => (Written.isUserChar_of_mem_authority h hc).isPlain
  have hauthority : ∀ c ∈ w.authority, Url.endsAuthority c = false ∧ Url.isDropped c = false :=
    fun c hc => (Written.isUserChar_of_mem_authority h hc).kept
  have hhost := Written.host_authority h w.meantScheme.name.toList
  have hport := WrittenPort.portOr_text h.port_plain
    (congrArg Prod.snd (Written.hostAndPort_authority h w.meantScheme.name.toList))
  rw [parse_of_parts htext hspelling hauthority (Url.isSound_iff.mpr (.of_plain hplain))
    (Written.endsAuthority_of_mem_tail h) (by simp [hhost, h.host_ne_nil]), hhost,
    hport, Written.meaning]
  cases w.port.meaning? w.meantScheme.defaultPort <;> rfl

/-- An endpoint with each of the parts, and delimiters of one part in another. -/
theorem parse_written_mixed :
    parse " HTTPS://u:p@w@Host_1.x-y:8443/a://b?[ \n" = .ok ⟨.https, "host_1.x-y", 8443⟩ := by
  have hread := parse_written
    (w :=
      { before := [' ']
        scheme := some (.https, "HTTPS".toList)
        user := some "u:p@w".toList
        host := "Host_1.x-y".toList
        port := .number 8443
        rest := "/a://b?[".toList
        after := [' ', '\n'] })
    { before_blank := by simp [isBlank, Text.blankRanges, Text.inRanges]
      spelling := by simp [Scheme.name]
      unmarked := by simp
      user_plain := by simp [IsUserChar]
      host_ne_nil := by simp
      host_plain := by simp [IsHostChar, Text.isLetter, Text.isDigit]
      port_plain := trivial
      rest_apart := by simp
      after_blank := by simp [isBlank, Text.blankRanges, Text.inRanges] }
  exact hread

end Metastore.Endpoint
