import Metastore.Endpoint.Address
import Metastore.Text.Case

/-!
# Splitting URLs

The parts of a URL that an endpoint needs: the scheme, the authority, and inside the authority the host and
the port. Splitting refuses an authority with unbalanced or misplaced brackets, with something other than an
address between them, or with a character whose compatibility form holds a delimiter.
-/

namespace Metastore

/-- A URL cut into its scheme and its authority; the rest of it is not needed. -/
structure Url where
  scheme : List Char
  authority : List Char
deriving DecidableEq, Repr

/-- What is written as the port of a URL. -/
inductive PortText where
  | absent
  | number (n : Nat)
  | invalid
deriving DecidableEq, Repr

namespace Url

/-- Characters of a scheme. -/
def isSchemeChar (c : Char) : Bool := Text.isLetter c || Text.isDigit c || c = '+' || c = '-' || c = '.'

/-- Whether the text before a first colon is a scheme. -/
def isScheme (cs : List Char) : Bool :=
  match cs with
  | [] => false
  | c :: _ => Text.isLetter c && cs.all isSchemeChar

/-- Control characters and the space, which are dropped from the front of a URL. -/
def isLeading (c : Char) : Bool := c.toNat ≤ 32

/-- Tabs and line ends, which are dropped from everywhere in a URL. -/
def isDropped (c : Char) : Bool := c = '\t' || c = '\r' || c = '\n'

/-- A URL as it is split, without the characters that are dropped. -/
def clean (cs : List Char) : List Char := (cs.dropWhile isLeading).filter (!isDropped ·)

/-- The characters outside ASCII whose compatibility form holds one of the delimiters of a URL. -/
def disguisedDelimiters : List Char :=
  ['⁇', '⁈', '⁉', '℀', '℁', '℅', '℆', '⩴', '︓', '︖', '﹕', '﹖', '﹟', '﹫', '＃', '／', '：', '？', '＠']

/-- The scheme, in lower case, and what follows it; a URL without one has the empty scheme. -/
def cutScheme (cs : List Char) : List Char × List Char :=
  match Text.cutAt ':' cs with
  | (before, some after) => if isScheme before then (before.map Char.toLower, after) else ([], cs)
  | (_, none) => ([], cs)

/-- Characters that end an authority. -/
def endsAuthority (c : Char) : Bool := c = '/' || c = '?' || c = '#'

/-- The authority at the front of what follows a scheme; there is one after two slashes. -/
def authorityOf : List Char → List Char
  | '/' :: '/' :: rest => rest.takeWhile (!endsAuthority ·)
  | _ => []

/-- The host with what surrounds it: what stands after the last `@`. -/
def hostPart (authority : List Char) : List Char := Text.afterLast '@' authority

/-- Whether the brackets of an authority stand around an address and nothing but a port follows them. -/
def bracketsFit (authority : List Char) : Bool :=
  let part := hostPart authority
  match Text.cutAt '[' part with
  | (before, some inside) =>
    let (host, port) := Text.cutAt ']' inside
    before.isEmpty
      && (match port with
        | none | some [] => true
        | some (c :: _) => c = ':')
      && Endpoint.Address.isBracketed host
  | (_, none) => Endpoint.Address.isBracketed (Text.cutAt ':' part).1

/-- Whether an authority can be split. -/
def isSound (authority : List Char) : Bool :=
  let opens := authority.contains '['
  let closes := authority.contains ']'
  opens == closes && (!opens || bracketsFit authority)
    && !authority.any disguisedDelimiters.contains

/-- Splits a URL; none if its authority is not sound. -/
def split? (cs : List Char) : Option Url :=
  let (scheme, rest) := cutScheme (clean cs)
  let authority := authorityOf rest
  if isSound authority then some ⟨scheme, authority⟩ else none

/-- The host and the port as they are written. -/
def hostAndPort (url : Url) : List Char × List Char :=
  let part := hostPart url.authority
  match Text.cutAt '[' part with
  | (_, some inside) =>
    let (host, after) := Text.cutAt ']' inside
    (host, ((Text.cutAt ':' (after.getD [])).2).getD [])
  | (_, none) =>
    let (host, port) := Text.cutAt ':' part
    (host, port.getD [])

/-- The host in lower case, except for a zone, which starts at the first percent sign. -/
def host (url : Url) : List Char :=
  let written := url.hostAndPort.1
  Text.lowerAfter [] (written.takeWhile (· != '%')) ++ written.dropWhile (· != '%')

/-- The port. -/
def port (url : Url) : PortText :=
  let written := url.hostAndPort.2
  if written.isEmpty then .absent
  else if written.all Text.isDigit then
    match Text.readDigits 10 written with
    | some n => if n ≤ 65535 then .number n else .invalid
    | none => .invalid
  else .invalid

end Url
end Metastore
