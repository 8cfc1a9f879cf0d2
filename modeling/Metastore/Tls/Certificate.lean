import Metastore.Text.Base64
import Metastore.Text.Split

/-!
# Certificates

Files of certificates: blocks in base 64 between a line that begins and a line that ends them, each labelled
with what it holds. Text outside the blocks is passed over. A block labelled as a certificate holds a
sequence of three elements: the certified data, the algorithm and the signature.
-/

namespace Metastore.Tls

/-- A certificate, as its bytes. -/
structure Certificate where
  bytes : List Nat
deriving DecidableEq, Repr

namespace Certificate

/-! ### Elements -/

/-- The number that bytes stand for, the most significant one first. -/
def bigEndian (bytes : List Nat) : Nat := bytes.foldl (fun n b => n * 256 + b) 0

/-- The length of an element, and what follows it: one byte, or a byte that says how many. -/
def cutLength : List Nat → Option (Nat × List Nat)
  | [] => none
  | b :: rest =>
    if b < 128 then some (b, rest)
    else
      let count := b - 128
      if count = 0 || rest.length < count then none
      else some (bigEndian (rest.take count), rest.drop count)

/-- The tag and the content of the element at the front, and what follows it. -/
def cutElement : List Nat → Option (Nat × List Nat × List Nat)
  | [] => none
  | tag :: rest => do
    let (length, rest) ← cutLength rest
    if rest.length < length then none else some (tag, rest.take length, rest.drop length)

/-- The tag of a sequence. -/
def sequenceTag : Nat := 0x30

/-- The tag of a string of bits. -/
def bitsTag : Nat := 0x03

/-- Whether bytes are a certificate. -/
def isSound (bytes : List Nat) : Bool :=
  match cutElement bytes with
  | some (outer, content, _) =>
    outer == sequenceTag &&
      match cutElement content with
      | some (first, _, rest) =>
        first == sequenceTag &&
          match cutElement rest with
          | some (second, _, rest) =>
            second == sequenceTag &&
              match cutElement rest with
              | some (third, _, rest) => third == bitsTag && rest.isEmpty
              | none => false
          | none => false
      | none => false
  | none => false

/-! ### Blocks -/

/-- What surrounds the label of a line that begins a block. -/
def beginMark : List Char := "-----BEGIN ".toList

/-- What ends a line that begins or ends a block. -/
def closeMark : List Char := "-----".toList

/-- The label of a line that begins a block. -/
def beginLabel? (line : List Char) : Option (List Char) := do
  let rest ← beginMark.isPrefixOf? line
  if closeMark.isSuffixOf rest then some (rest.take (rest.length - closeMark.length)) else none

/-- The line that ends a block. -/
def endLine (label : List Char) : List Char := "-----END ".toList ++ label ++ closeMark

/-- The blocks in a list of lines, each with its label; none if one of them does not end. -/
def blocks : Option (List Char × List Char) → List (List Char) → Option (List (List Char × List Char))
  | none, [] => some []
  | some _, [] => none
  | none, line :: rest =>
    match beginLabel? line with
    | some label => blocks (some (label, [])) rest
    | none => blocks none rest
  | some (label, body), line :: rest =>
    if line = endLine label then (blocks none rest).map ((label, body) :: ·)
    else blocks (some (label, body ++ line)) rest

/-- The labels of certificates. -/
def labels : List String := ["CERTIFICATE", "X509 CERTIFICATE", "TRUSTED CERTIFICATE"]

/-- A line without the white space and control characters at its end. -/
def trimEnd (line : List Char) : List Char := (line.reverse.dropWhile (·.toNat ≤ 32)).reverse

/-- The certificates in a text; none if a block cannot be read. -/
def readAll? (text : List Char) : Option (List Certificate) := do
  let found ← blocks none ((Text.splitBy (· == '\n') text).map trimEnd)
  let decoded ← found.mapM fun (label, body) => do
    let bytes ← Text.Base64.decode? body
    if labels.contains (String.ofList label) then
      if isSound bytes then some [⟨bytes⟩] else none
    else some []
  return decoded.flatten

end Certificate
end Metastore.Tls
