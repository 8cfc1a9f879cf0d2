import Metastore.Text.Digits
import Metastore.Text.Split

/-!
# Bracketed addresses

What may stand between the brackets of a host: an address of version 6 in its usual notation, with a zone
if it has one, or an address of a later version.
-/

namespace Metastore.Endpoint.Address

/-- A decimal number from 0 to 255 without needless zeros in front. -/
def isOctet (cs : List Char) : Bool :=
  !cs.isEmpty && cs.length ≤ 3 && cs.all Text.isDigit
    && (cs == ['0'] || cs.head? != some '0')
    && match Text.readDigits 10 cs with
      | some n => n ≤ 255
      | none => false

/-- An address of version 4: four octets with points between them. -/
def isVersion4 (cs : List Char) : Bool :=
  let octets := Text.splitBy (· == '.') cs
  octets.length = 4 && octets.all isOctet

/-- A group of an address of version 6: one to four hexadecimal digits. -/
def isGroup (cs : List Char) : Bool := !cs.isEmpty && cs.length ≤ 4 && cs.all Text.isHexDigit

/-- The pieces between colons, with a last piece in version-4 notation counted as two groups. -/
def pieces? (cs : List Char) : Option (List (List Char)) :=
  let parts := Text.splitBy (· == ':') cs
  if parts.length < 3 then none
  else
    let last := parts.getLast?.getD []
    if last.contains '.' then
      if isVersion4 last then some (parts.dropLast ++ [['0'], ['0']]) else none
    else some parts

/-- How many of the pieces strictly between the first and the last are empty. -/
def innerGaps (parts : List (List Char)) : Nat :=
  (parts.drop 1).dropLast.countP List.isEmpty

/-- The pieces before and after the first empty one that is not the first piece. -/
def aroundGap (parts : List (List Char)) : List (List Char) × List (List Char) :=
  let inner := parts.drop 1
  (parts.take 1 ++ inner.takeWhile (!·.isEmpty), (inner.dropWhile (!·.isEmpty)).drop 1)

/-- One side of a gap: groups, or a single empty piece where the gap is at the end of the address. -/
def sideGroups? (side : List (List Char)) : Option Nat :=
  if side == [[]] then some 0
  else if side.all isGroup then some side.length
  else none

/-- The groups of an address of version 6: eight, or fewer around one gap. -/
def isGroups (cs : List Char) : Bool :=
  match pieces? cs with
  | none => false
  | some parts =>
    match innerGaps parts with
    | 0 => parts.length = 8 && parts.all isGroup
    | 1 =>
      let (before, after) := aroundGap parts
      match sideGroups? before, sideGroups? after with
      | some m, some n => parts.length ≤ 9 && m + n < 8
      | _, _ => false
    | _ => false

/-- An address of version 6, with a zone after a percent sign if it has one. -/
def isVersion6 (cs : List Char) : Bool :=
  match Text.cutAt '%' cs with
  | (address, none) => !address.contains '/' && isGroups address
  | (address, some zone) => !zone.isEmpty && !zone.contains '%' && !cs.contains '/' && isGroups address

/-- An address of a later version: a `v`, hexadecimal digits, a point, and something after it. -/
def isLaterVersion : List Char → Bool
  | 'v' :: rest =>
    let digits := rest.takeWhile Text.isHexDigit
    match rest.dropWhile Text.isHexDigit with
    | '.' :: _ :: _ => !digits.isEmpty
    | _ => false
  | _ => false

/-- What may stand between the brackets of a host. -/
def isBracketed (cs : List Char) : Bool :=
  if cs.head? = some 'v' then isLaterVersion cs else isVersion6 cs

end Metastore.Endpoint.Address
