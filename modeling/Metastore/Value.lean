import Metastore.Double
import Metastore.Timestamp

/-!
# Values

The data that settings, documents, queries and configuration files consist of. Mappings keep their entries
in order of insertion; their keys are values too, because a configuration file may use numbers, dates and
truth values as keys.
-/

namespace Metastore

/-- A value of a kind that only passes through, read from a configuration file. -/
inductive Foreign where
  /-- Raw bytes. -/
  | bytes (content : List Nat)
  /-- A set, whose items are known by their notation. -/
  | set (items : List String)
deriving DecidableEq, Repr

namespace Foreign

/-- The name of a kind. -/
def kind : Foreign → String
  | bytes _ => "bytes"
  | set _ => "set"

/-- Whether nothing is in the value. -/
def isEmpty : Foreign → Bool
  | bytes content => content.isEmpty
  | set items => items.isEmpty

end Foreign

/-- A piece of data. -/
inductive Value where
  | null
  | bool (b : Bool)
  | int (n : Int)
  | float (x : Double)
  | text (s : String)
  | date (t : Timestamp)
  | foreign (f : Foreign)
  | list (items : List Value)
  /-- An entry in a list of entries, which keeps both of its parts as they are. -/
  | entry (key value : Value)
  | map (entries : List (Value × Value))
deriving Repr, Inhabited

/-- The entries of a mapping, in order of insertion. -/
abbrev Mapping := List (Value × Value)

namespace Value

/-! ### Equality -/

mutual

/-- Whether two values are equal. -/
private def decEqValue : (a b : Value) → Decidable (a = b)
  | .null, .null => .isTrue rfl
  | .bool a, .bool b => decidable_of_iff (a = b) (by simp)
  | .int a, .int b => decidable_of_iff (a = b) (by simp)
  | .float a, .float b => decidable_of_iff (a = b) (by simp)
  | .text a, .text b => decidable_of_iff (a = b) (by simp)
  | .date a, .date b => decidable_of_iff (a = b) (by simp)
  | .foreign a, .foreign b => decidable_of_iff (a = b) (by simp)
  | .list as, .list bs =>
    match decEqItems as bs with
    | .isTrue h => .isTrue (by rw [h])
    | .isFalse h => .isFalse (by simpa using h)
  | .entry j v, .entry k w =>
    match decEqValue j k, decEqValue v w with
    | .isTrue h, .isTrue h' => .isTrue (by rw [h, h'])
    | .isFalse h, _ => .isFalse (by simp [h])
    | _, .isFalse h => .isFalse (by simp [h])
  | .map as, .map bs =>
    match decEqEntries as bs with
    | .isTrue h => .isTrue (by rw [h])
    | .isFalse h => .isFalse (by simpa using h)
  | .null, .bool _ | .null, .int _ | .null, .float _ | .null, .text _ | .null, .date _
  | .null, .foreign _ | .null, .list _ | .null, .entry _ _ | .null, .map _ | .bool _, .null
  | .bool _, .int _ | .bool _, .float _ | .bool _, .text _ | .bool _, .date _ | .bool _, .foreign _
  | .bool _, .list _ | .bool _, .entry _ _ | .bool _, .map _ | .int _, .null | .int _, .bool _
  | .int _, .float _ | .int _, .text _ | .int _, .date _ | .int _, .foreign _ | .int _, .list _
  | .int _, .entry _ _ | .int _, .map _ | .float _, .null | .float _, .bool _ | .float _, .int _
  | .float _, .text _ | .float _, .date _ | .float _, .foreign _ | .float _, .list _
  | .float _, .entry _ _ | .float _, .map _ | .text _, .null | .text _, .bool _ | .text _, .int _
  | .text _, .float _ | .text _, .date _ | .text _, .foreign _ | .text _, .list _
  | .text _, .entry _ _ | .text _, .map _ | .date _, .null | .date _, .bool _ | .date _, .int _
  | .date _, .float _ | .date _, .text _ | .date _, .foreign _ | .date _, .list _
  | .date _, .entry _ _ | .date _, .map _ | .foreign _, .null | .foreign _, .bool _
  | .foreign _, .int _ | .foreign _, .float _ | .foreign _, .text _ | .foreign _, .date _
  | .foreign _, .list _ | .foreign _, .entry _ _ | .foreign _, .map _ | .list _, .null
  | .list _, .bool _ | .list _, .int _ | .list _, .float _ | .list _, .text _ | .list _, .date _
  | .list _, .foreign _ | .list _, .entry _ _ | .list _, .map _ | .entry _ _, .null
  | .entry _ _, .bool _ | .entry _ _, .int _ | .entry _ _, .float _ | .entry _ _, .text _
  | .entry _ _, .date _ | .entry _ _, .foreign _ | .entry _ _, .list _ | .entry _ _, .map _
  | .map _, .null | .map _, .bool _ | .map _, .int _ | .map _, .float _ | .map _, .text _
  | .map _, .date _ | .map _, .foreign _ | .map _, .list _ | .map _, .entry _ _ => .isFalse (by simp)

/-- Whether two lists of values are equal. -/
private def decEqItems : (as bs : List Value) → Decidable (as = bs)
  | [], [] => .isTrue rfl
  | [], _ :: _ | _ :: _, [] => .isFalse (by simp)
  | a :: as, b :: bs =>
    match decEqValue a b, decEqItems as bs with
    | .isTrue h, .isTrue h' => .isTrue (by rw [h, h'])
    | .isFalse h, _ => .isFalse (by simp [h])
    | _, .isFalse h => .isFalse (by simp [h])

/-- Whether two lists of entries are equal. -/
private def decEqEntries : (as bs : List (Value × Value)) → Decidable (as = bs)
  | [], [] => .isTrue rfl
  | [], _ :: _ | _ :: _, [] => .isFalse (by simp)
  | (j, v) :: as, (k, w) :: bs =>
    match decEqValue j k, decEqValue v w, decEqEntries as bs with
    | .isTrue h, .isTrue h', .isTrue h'' => .isTrue (by rw [h, h', h''])
    | .isFalse h, _, _ => .isFalse (by simp [h])
    | _, .isFalse h, _ => .isFalse (by simp [h])
    | _, _, .isFalse h => .isFalse (by simp [h])

end

instance : DecidableEq Value := decEqValue

/-! ### Simple questions -/

/-- Whether a value counts as yes: everything but null, false, zero and what is empty. -/
def truthy : Value → Bool
  | .null => false
  | .bool b => b
  | .int n => n != 0
  | .float x => !x.isZero
  | .text s => !s.isEmpty
  | .date _ => true
  | .foreign f => !f.isEmpty
  | .list items => !items.isEmpty
  | .entry _ _ => true
  | .map entries => !entries.isEmpty

/-- Whether a value is null. -/
def isNull : Value → Bool
  | .null => true
  | _ => false

/-- Whether a value is a mapping. -/
def isMap : Value → Bool
  | .map _ => true
  | _ => false

/-- Whether a value may stand as the key of a mapping. -/
def isKey : Value → Bool
  | .list _ | .entry _ _ | .map _ | .foreign (.set _) => false
  | _ => true

/-- The value itself if it counts as yes, and otherwise `other`. -/
def orElse (v other : Value) : Value := if v.truthy then v else other

/-- The text of a text. -/
def text? : Value → Option String
  | .text s => some s
  | _ => none

/-- The entries of a mapping. -/
def entries? : Value → Option Mapping
  | .map entries => some entries
  | _ => none

end Value
end Metastore
