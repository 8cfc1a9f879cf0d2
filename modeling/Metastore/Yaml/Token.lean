import Metastore.Problem

/-!
# Tokens of configuration files

The signs, names and texts that a configuration file consists of, with the starts and ends of collections
that only its indentation shows.
-/

namespace Metastore.Yaml

/-- A tag as it is written: a handle, if there is one, and what follows it. -/
structure Tag where
  handle : Option String
  suffix : String
deriving DecidableEq, Repr

/-- A line of instructions in front of a document. -/
inductive Directive where
  /-- The version that the document is written in. -/
  | version (major minor : Nat)
  /-- What a handle of tags stands for. -/
  | handle (handle tagStart : String)
  | other
deriving DecidableEq, Repr

/-- A token. -/
inductive Token where
  | directive (directive : Directive)
  | documentStart
  | documentEnd
  | blockSequence
  | blockMapping
  | blockEnd
  | flowSequence
  | flowSequenceEnd
  | flowMapping
  | flowMappingEnd
  /-- What precedes an item of a block sequence. -/
  | item
  /-- What separates elements inside brackets. -/
  | separator
  | key
  | value
  | alias (name : String)
  | anchor (name : String)
  | tag (tag : Tag)
  /-- A text; it is plain if nothing marks its start and end. -/
  | text (text : String) (plain : Bool)
  /-- Here the file could not be read on. -/
  | failed (problem : Problem)
deriving DecidableEq, Repr

end Metastore.Yaml
