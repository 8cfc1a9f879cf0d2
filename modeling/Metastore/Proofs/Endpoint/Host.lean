import Metastore.Proofs.Endpoint.Authority
import Metastore.Proofs.Text.Ascii

/-!
# Hosts with blanks behind them

What becomes of host and port if the authority goes on with blanks. They end up in the host, which is then
longer, or in the port, which is then none (`Url.changed_of_blanks`).
-/

namespace Metastore

namespace Text

/-- Putting a text in lower case, each character gives characters of its own. -/
lemma length_lowerAfter (before cs : List Char) :
    (lowerAfter before cs).length = (cs.map fun c => (lowerChar c).length).sum := by
  induction cs generalizing before with
  | nil => rfl
  | cons c rest ih =>
    rw [lowerAfter, List.length_append, ih, List.map_cons, List.sum_cons]
    split
    · next hsigma =>
      rw [hsigma]
      simp [lowerChar]
    · rfl

lemma lowerChar_ne_nil (c : Char) : lowerChar c ≠ [] := by
  rw [lowerChar]
  split
  · simp
  · split <;> simp

lemma length_lowerAfter_lt {back : List Char} (h : back ≠ []) (front : List Char) :
    (lowerAfter [] front).length < (lowerAfter [] (front ++ back)).length := by
  obtain ⟨c, rest, rfl⟩ := List.exists_cons_of_ne_nil h
  have hchar := List.length_pos_iff.mpr (lowerChar_ne_nil c)
  simp only [length_lowerAfter, List.map_append, List.sum_append, List.map_cons, List.sum_cons]
  omega

end Text

namespace Url

open Text (isBlank cutAt_append)

variable {back : List Char}

lemma not_mem_of_isBlank {c : Char} (hback : ∀ d ∈ back, isBlank d = true)
    (hc : isBlank c = false) : c ∉ back := by
  intro hmem
  rw [hback c hmem] at hc
  cases hc

/-- The host in lower case, up to a zone. -/
def lowered (written : List Char) : List Char :=
  Text.lowerAfter [] (written.takeWhile (· != '%')) ++ written.dropWhile (· != '%')

lemma length_lowered_lt (hne : back ≠ []) (hzone : '%' ∉ back) (written : List Char) :
    (lowered written).length < (lowered (written ++ back)).length := by
  rw [lowered, lowered]
  by_cases hmem : '%' ∈ written
  · obtain ⟨front, zone, rfl, hfront⟩ := List.eq_append_cons_of_mem hmem
    have hlength := List.length_pos_iff.mpr hne
    simp only [List.append_assoc, List.cons_append,
      List.takeWhile_append_of_pos (Text.bne_of_not_mem hfront),
      List.dropWhile_append_of_pos (Text.bne_of_not_mem hfront), List.length_append]
    simp
    omega
  · have hlonger : '%' ∉ written ++ back := by simp [hmem, hzone]
    rw [List.takeWhile_eq_self_iff.mpr (Text.bne_of_not_mem hmem),
      List.dropWhile_eq_nil_iff.mpr (Text.bne_of_not_mem hmem),
      List.takeWhile_eq_self_iff.mpr (Text.bne_of_not_mem hlonger),
      List.dropWhile_eq_nil_iff.mpr (Text.bne_of_not_mem hlonger), List.append_nil, List.append_nil]
    exact Text.length_lowerAfter_lt hne written

/-- Only a port may follow a closing bracket. -/
lemma eq_colon_of_isSound {authority before address after : List Char}
    (hsound : isSound authority = true)
    (hpart : hostPart authority = before ++ '[' :: (address ++ ']' :: after))
    (hopen : '[' ∉ before) (hclose : ']' ∉ address) : ∀ c ∈ after.head?, c = ':' := by
  have hmem : '[' ∈ hostPart authority := by simp [hpart]
  rcases (isSound_iff.mp hsound).brackets with ⟨hnone, -⟩ | ⟨-, -, hfit⟩
  · exact absurd ((Text.afterLast_suffix _ _).subset hmem) hnone
  · have hfits := bracketsFit_iff.mpr hfit
    simp only [bracketsFit, hpart, Text.cutAt_append_cons hopen, Text.cutAt_append_cons hclose,
      Bool.and_eq_true] at hfits
    cases after with
    | nil => simp
    | cons c port => simpa using hfits.1.2

/-- Blanks behind an authority that can still be split are at the end of the host or of the port. -/
lemma hostAndPort_append (hback : ∀ c ∈ back, isBlank c = true) (hne : back ≠ [])
    (scheme authority : List Char) (hsound : isSound (authority ++ back) = true) :
    let given : Url := ⟨scheme, authority⟩
    let longer : Url := ⟨scheme, authority ++ back⟩
    longer.hostAndPort.1 = given.hostAndPort.1 ++ back ∨
      longer.hostAndPort.2 = given.hostAndPort.2 ++ back := by
  have hpart : hostPart (authority ++ back) = hostPart authority ++ back :=
    Text.afterLast_append (not_mem_of_isBlank hback (by decide)) authority
  have hopen : '[' ∉ back := not_mem_of_isBlank hback (by decide)
  have hclose : ']' ∉ back := not_mem_of_isBlank hback (by decide)
  have hcolon : ':' ∉ back := not_mem_of_isBlank hback (by decide)
  intro given longer
  simp only [hostAndPort, given, longer, hpart, cutAt_append hopen]
  rcases Text.cutAt_cases '[' (hostPart authority) with ⟨before, inside, heq, hbefore, hcut⟩ | ⟨-, hcut⟩
  · simp only [hcut, cutAt_append hclose]
    rcases Text.cutAt_cases ']' inside with ⟨address, after, rfl, haddress, hcut⟩ | ⟨-, hcut⟩
    · simp only [hcut, Option.getD_some, cutAt_append hcolon]
      rcases Text.cutAt_cases ':' after with ⟨gap, port, rfl, -, hcut⟩ | ⟨hport, hcut⟩
      · simp only [hcut]
        exact .inr rfl
      · -- the blanks would follow the bracket
        exfalso
        have hlonger : hostPart (authority ++ back) =
            before ++ '[' :: (address ++ ']' :: (after ++ back)) := by
          rw [hpart, heq]
          simp
        obtain ⟨c, rest, hcons⟩ : ∃ c rest, after ++ back = c :: rest :=
          List.exists_cons_of_ne_nil (by simp [hne])
        have hfirst : c = ':' :=
          eq_colon_of_isSound hsound hlonger hbefore haddress c (by rw [hcons]; rfl)
        have hmem : ':' ∈ after ++ back := by rw [hcons, hfirst]; exact List.mem_cons_self
        simp [hport, hcolon] at hmem
    · simp only [hcut, true_or]
  · simp only [hcut, cutAt_append hcolon]
    rcases Text.cutAt_cases ':' (hostPart authority) with ⟨host, port, -, -, hcut⟩ | ⟨-, hcut⟩
    · simp only [hcut]
      exact .inr rfl
    · simp only [hcut, true_or]

/-- A port with blanks in it is none. -/
lemma port_of_blanks {url : Url} {written : List Char} (hback : ∀ c ∈ back, isBlank c = true)
    (hne : back ≠ []) (h : url.hostAndPort.2 = written ++ back) : url.port = .invalid := by
  obtain ⟨c, rest, rfl⟩ := List.exists_cons_of_ne_nil hne
  have hblank : Text.isDigit c = false := Text.isDigit_of_isBlank (hback c List.mem_cons_self)
  rw [port, h]
  simp [hblank]

/-- Blanks behind an authority that can still be split change the host, or leave no port. -/
lemma changed_of_blanks (hback : ∀ c ∈ back, isBlank c = true) (hne : back ≠ [])
    (scheme authority : List Char) (hsound : isSound (authority ++ back) = true) :
    (⟨scheme, authority ++ back⟩ : Url).host ≠ (⟨scheme, authority⟩ : Url).host ∨
      (⟨scheme, authority ++ back⟩ : Url).port = .invalid := by
  rcases hostAndPort_append hback hne scheme authority hsound with hhost | hport
  · left
    intro heq
    have hlength := length_lowered_lt hne (not_mem_of_isBlank hback (by decide))
      (⟨scheme, authority⟩ : Url).hostAndPort.1
    rw [← hhost] at hlength
    exact absurd (congrArg List.length heq) (Nat.ne_of_gt hlength)
  · exact .inr (port_of_blanks hback hne hport)

end Url
end Metastore
