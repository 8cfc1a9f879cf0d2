import Metastore.Value.Shape
import Metastore.Text.Split

/-!
# Configuration trees

A configuration is a mapping whose values may be mappings again. Values are addressed by paths of keys,
written with points between them. Setting a value creates the mappings on the way that are missing, and
fails without effect where something else stands in the way.
-/

namespace Metastore

/-- The keys on the way to a value. -/
abbrev Path := List String

/-- The path written as a text: the keys with points between them. -/
def Path.ofText (s : String) : Path := (Text.splitBy (· == '.') s.toList).map String.ofList

/-- A configuration: the entries of its outermost mapping. -/
structure Config where
  root : Mapping
deriving DecidableEq, Repr

namespace Value

/-- The value at a path, if every key on the way is there. -/
def at? : Value → Path → Option Value
  | v, [] => some v
  | .map entries, key :: rest =>
    match Mapping.getText? entries key with
    | some child => child.at? rest
    | none => none
  | _, _ :: _ => none
termination_by structural _ path => path

/-- Sets the value at a path. A value in the way that is no mapping has no members to go through, and takes
no entry either. -/
def insertAt : Value → Path → Value → Except Problem Value
  | _, [], new => .ok new
  | .map entries, [key], new => .ok (.map (Mapping.setText entries key new))
  | _, [_], _ => .error .wrongType
  | .map entries, key :: next :: rest, new => do
    let child ← insertAt ((Mapping.getText? entries key).getD (.map [])) (next :: rest) new
    return .map (Mapping.setText entries key child)
  | _, _ :: _ :: _, _ => .error .notAMapping
termination_by structural _ path => path

end Value

namespace Config

/-- The configuration with nothing in it. -/
def empty : Config := ⟨[]⟩

/-- The configuration as a value. -/
def toValue (c : Config) : Value := .map c.root

/-- The value at a path, or null. -/
def lookup (c : Config) (path : Path) : Value := (c.toValue.at? path).getD .null

/-- Sets the value at a path. -/
def set (c : Config) (path : Path) (v : Value) : Except Problem Config := do
  match ← c.toValue.insertAt path v with
  | .map root => return ⟨root⟩
  | _ => throw .wrongType

/-- What a copy of the outermost mapping looks like after the value at a path was set through another such
copy: the mappings inside are shared by the two, their own entries are not. -/
def editCopy (c : Config) (path : Path) (v : Value) : Except Problem Value := do
  let edited ← c.set path v
  match path with
  | key :: _ :: _ => return if c.root.has (.text key) then edited.toValue else c.toValue
  | _ => return c.toValue

end Config
end Metastore
