import Metastore.Environment
import Metastore.Value

/-!
# Placeholders

Texts may refer to environment variables as `${NAME}` or `${NAME|default}`. A name is not empty and holds
no `}`, `:` or `|`; a default holds no `}`. Placeholders are found from the left and replaced once: what
they are replaced by is not looked at again.
-/

namespace Metastore

/-- A reference to a variable, with the text to use where it is not set. -/
structure Placeholder where
  name : List Char
  default : Option (List Char)
deriving DecidableEq, Repr

namespace Placeholder

/-- Characters of a name. -/
def isNameChar (c : Char) : Bool := c != '\x7d' && c != ':' && c != '|'

/-- The text that is put in place of a placeholder. -/
def fill (env : Environment) (p : Placeholder) : List Char :=
  match env.value? (String.ofList p.name) with
  | some value => value.toList
  | none => p.default.getD []

/-- Reads the rest of a placeholder whose opening `${` has been read. -/
def readBody? (cs : List Char) : Option (Placeholder × List Char) :=
  let name := cs.takeWhile isNameChar
  if name.isEmpty then none
  else match cs.dropWhile isNameChar with
    | '\x7d' :: rest => some (⟨name, none⟩, rest)
    | '|' :: rest =>
      match rest.dropWhile (· != '\x7d') with
      | '\x7d' :: after => some (⟨name, some (rest.takeWhile (· != '\x7d'))⟩, after)
      | _ => none
    | _ => none

/-- Reads a placeholder at the front of a text. -/
def read? : List Char → Option (Placeholder × List Char)
  | '$' :: '\x7b' :: rest => readBody? rest
  | _ => none

theorem length_dropWhile_le {α : Type} (p : α → Bool) (xs : List α) :
    (xs.dropWhile p).length ≤ xs.length := (List.dropWhile_suffix p).length_le

/-- A placeholder takes up some of the text. -/
theorem length_lt_of_readBody? {cs rest : List Char} {p : Placeholder}
    (h : readBody? cs = some (p, rest)) : rest.length < cs.length := by
  unfold readBody? at h
  have hle := length_dropWhile_le isNameChar cs
  simp only at h
  split at h
  · simp at h
  · split at h
    · rename_i heq
      simp only [Option.some.injEq, Prod.mk.injEq] at h
      rw [heq, h.2] at hle
      simp only [List.length_cons] at hle
      omega
    · rename_i after heq
      split at h
      · rename_i heq'
        simp only [Option.some.injEq, Prod.mk.injEq] at h
        have hle' := length_dropWhile_le (· != '\x7d') after
        rw [heq', h.2] at hle'
        rw [heq] at hle
        simp only [List.length_cons] at hle hle'
        omega
      · simp at h
    · simp at h

/-- A placeholder takes up some of the text. -/
theorem length_lt_of_read? {cs rest : List Char} {p : Placeholder}
    (h : read? cs = some (p, rest)) : rest.length < cs.length := by
  unfold read? at h
  split at h
  · have := length_lt_of_readBody? h
    simp only [List.length_cons]
    omega
  · simp at h

end Placeholder

/-- A part of a text: a character that stands for itself, or a placeholder. -/
inductive Segment where
  | char (c : Char)
  | hole (p : Placeholder)
deriving DecidableEq, Repr

namespace Segment

/-- The parts of a text, found from the left. -/
def ofText : List Char → List Segment
  | [] => []
  | c :: rest =>
    match _found : Placeholder.read? (c :: rest) with
    | some (p, after) => .hole p :: ofText after
    | none => .char c :: ofText rest
termination_by cs => cs.length
decreasing_by
  · exact Placeholder.length_lt_of_read? _found
  · simp

/-- The text that a part stands for. -/
def fill (env : Environment) : Segment → List Char
  | char c => [c]
  | hole p => p.fill env

end Segment

namespace Environment

/-- A text with its placeholders replaced. -/
def substitute (env : Environment) (s : String) : String :=
  String.ofList ((Segment.ofText s.toList).flatMap (Segment.fill env))

/-- A value with the placeholders replaced if it is a text. -/
def substituteValue (env : Environment) : Value → Value
  | .text s => .text (env.substitute s)
  | v => v

mutual

/-- A value with the placeholders replaced in every text in it, but not in keys. -/
def resolve (env : Environment) : Value → Value
  | .list items => .list (resolveItems env items)
  | .map entries => .map (resolveEntries env entries)
  | v => env.substituteValue v

/-- The items of a list with their placeholders replaced. -/
def resolveItems (env : Environment) : List Value → List Value
  | [] => []
  | v :: rest => resolve env v :: resolveItems env rest

/-- The entries of a mapping with the placeholders in their values replaced. -/
def resolveEntries (env : Environment) : List (Value × Value) → List (Value × Value)
  | [] => []
  | (k, v) :: rest => (k, resolve env v) :: resolveEntries env rest

end

end Environment
end Metastore
