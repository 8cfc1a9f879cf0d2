import Metastore.Text.Digits

/-!
# Characters of a configuration file

The characters that may stand in a configuration file, and the classes that its grammar tells apart: line
breaks, blanks, and the characters of names. Where a class may also be met at the end of the text, it is a
property of the text that follows.
-/

namespace Metastore.Yaml

/-- Whether a character may stand in a file. -/
def isAllowed (c : Char) : Bool :=
  let n := c.toNat
  c = '\t' || c = '\n' || (0x20 ≤ n && n ≤ 0x7E) || n = 0x85 || (0xA0 ≤ n && n ≤ 0xFFFD) || 0x10000 ≤ n

/-- The mark that may stand in front of a file. -/
def byteOrderMark : Char := '\uFEFF'

/-- Line breaks. -/
def isBreak (c : Char) : Bool := c = '\n' || c = '\x85' || c = '\u2028' || c = '\u2029'

/-- Spaces and tabs. -/
def isGap (c : Char) : Bool := c = ' ' || c = '\t'

/-- Whether a text is at a line break or at its end. -/
def atLineEnd : List Char → Bool
  | [] => true
  | c :: _ => isBreak c

/-- Whether a text is at a space, a line break or its end. -/
def atSpace : List Char → Bool
  | [] => true
  | c :: _ => c = ' ' || isBreak c

/-- Whether a text is at a space, a tab, a line break or its end. -/
def atGap : List Char → Bool
  | [] => true
  | c :: _ => isGap c || isBreak c

/-- The break that a line break stands for: the ordinary one, unless it separates lines or paragraphs. -/
def asBreak (c : Char) : Char := if c = '\x85' then '\n' else c

/-- Takes a line break off a text, if there is one. -/
def cutBreak : List Char → List Char × List Char
  | [] => ([], [])
  | c :: rest => if isBreak c then ([asBreak c], rest) else ([], c :: rest)

/-- Whether a text is at a mark of three characters that stands by itself. -/
def atMark (mark : Char) : List Char → Bool
  | a :: b :: c :: rest => a = mark && b = mark && c = mark && atGap rest
  | _ => false

/-- Whether a text that starts a line is at the border of a document. -/
def atBorder (cs : List Char) : Bool := atMark '-' cs || atMark '.' cs

/-- Characters of the names of anchors, handles and directives. -/
def isNameChar (c : Char) : Bool := Text.isDigit c || Text.isLetter c || c = '-' || c = '_'

/-- Characters of tags. -/
def isTagChar (c : Char) : Bool := Text.isDigit c || Text.isLetter c || "-;/?:@&=+$,_.!~*'()[]%".toList.contains c

end Metastore.Yaml
