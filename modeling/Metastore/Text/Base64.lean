import Metastore.Text.Digits

/-!
# Base 64

Bytes written with sixty-four characters, six bits each.
-/

namespace Metastore.Text.Base64

/-- The six bits that a character stands for. -/
def value? (c : Char) : Option Nat :=
  if 'A' ≤ c && c ≤ 'Z' then some (c.toNat - 'A'.toNat)
  else if 'a' ≤ c && c ≤ 'z' then some (c.toNat - 'a'.toNat + 26)
  else if isDigit c then some (c.toNat - '0'.toNat + 52)
  else if c = '+' then some 62
  else if c = '/' then some 63
  else none

/-- The bytes of groups of six bits; bits left over at the end are dropped. -/
def bytes : List Nat → List Nat
  | a :: b :: c :: d :: rest => (a * 4 + b / 16) :: (b % 16 * 16 + c / 4) :: (c % 4 * 64 + d) :: bytes rest
  | [a, b, c] => [a * 4 + b / 16, b % 16 * 16 + c / 4]
  | [a, b] => [a * 4 + b / 16]
  | _ => []

/-- The bytes of a text that is padded to a multiple of four characters. -/
def decode? (cs : List Char) : Option (List Nat) :=
  let body := cs.takeWhile (· != '=')
  let padding := cs.drop body.length
  if padding.all (· == '=') && padding.length ≤ 2 && cs.length % 4 == 0 then
    (body.mapM value?).map bytes
  else none

end Metastore.Text.Base64
