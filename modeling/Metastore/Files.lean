import Metastore.Text.Split

/-!
# Files

The files that can be read, by name. Names are relative to the working directory; empty parts of a name and
single points do not matter.
-/

namespace Metastore

/-- Files with their contents. -/
abbrev Files := List (String × ByteArray)

namespace Files

/-- The parts of a name that matter. -/
def parts (name : String) : List (List Char) :=
  (Text.splitBy (· == '/') name.toList).filter fun part => !part.isEmpty && part != ['.']

/-- Whether a name starts at the root of the file system. -/
def isAbsolute (name : String) : Bool := name.toList.head? == some '/'

/-- The contents of a file, if there is one of that name. -/
def read? (files : Files) (name : String) : Option ByteArray :=
  (files.find? fun f => isAbsolute f.1 == isAbsolute name && parts f.1 == parts name).map (·.2)

end Files
end Metastore
