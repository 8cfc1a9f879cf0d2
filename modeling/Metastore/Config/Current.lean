import Metastore.Config.Tree
import Metastore.Privilege

/-!
# The current configuration

A configuration in use, which is read, changed and replaced as a whole. Values are set in place, going from
one mapping into the next; mappings that are missing on the way are put there as they are reached. Reading
keeps the default that it was given.
-/

namespace Metastore

/-- Something done to a value in place. What it changed before failing stays changed. -/
abbrev Edit := Action Value Problem

namespace Edit

variable {α : Type}

/-- Sets the entry at a key of a mapping. -/
def put (key : String) (new : Value) : Edit Unit := fun v =>
  match v with
  | .map entries => (.ok (), .map (Mapping.setText entries key new))
  | v => (.error .wrongType, v)

/-- Edits what stands at a key of a mapping. Where nothing does, an empty mapping is put there first, and it
stays there if the edit fails. -/
def inside (key : String) (edit : Edit α) : Edit α := fun v =>
  match v with
  | .map entries =>
    let (result, child) := edit ((Mapping.getText? entries key).getD (.map []))
    (result, .map (Mapping.setText entries key child))
  | v => (.error .notAMapping, v)

/-- Sets the value at a path. -/
def setAt : Path → Value → Edit Unit
  | [], _ => throw .wrongType
  | [key], new => put key new
  | key :: rest, new => inside key (setAt rest new)

end Edit

namespace Config

/-- Something done with the current configuration. -/
abbrev Use := Action Config Problem

namespace Use

variable {α : Type}

/-- Edits the configuration, which stays a mapping. -/
def edit (e : Edit α) : Use α := fun c =>
  let (result, after) := e c.toValue
  (result, ⟨after.entries?.getD c.root⟩)

/-- Sets the value at a path. -/
def set (path : Path) (v : Value) : Use Unit := edit (.setAt path v)

/-- Reads the value at a path. If there is none, or it is null, the default is stored there and returned,
unless it is null itself. -/
def read (path : Path) (default : Value) : Use Value := fun c =>
  let found := c.lookup path
  if !found.isNull then (.ok found, c)
  else if default.isNull then (.ok .null, c)
  else (do set path default; return default : Use Value) c

/-- Takes every entry out. -/
def clear : Use Unit := modify fun _ => .empty

/-- Sets entries, from the first to the last. -/
def update (more : Mapping) : Use Unit := modify fun c => ⟨c.root.setAll more⟩

/-- Replaces the configuration by a fresh one, if that could be made: the old entries are taken out before the
fresh ones are put in. -/
def replace (fresh : Except Problem Config) : Use Unit := do
  let made ← fresh
  clear
  update made.root

end Use
end Config
end Metastore
