import Metastore.Value

/-!
# Equality of values

Two notions coarser than structural equality. `Value.isSameKey` decides when two keys name the same entry
of a mapping; `Value.same` decides when two values count as equal, where numbers and truth values are
compared by their numeric value and mappings without regard to the order of their entries.
-/

namespace Metastore
namespace Value

/-- The integer value of a truth value or an integer. -/
def asInt? : Value → Option Int
  | .bool b => some (if b then 1 else 0)
  | .int n => some n
  | _ => none

/-- Whether two values are numerically equal. -/
def sameNumber : Value → Value → Bool
  | .float x, .float y => x.same y
  | .float x, b => match b.asInt? with
    | some n => x.isInt n
    | none => false
  | a, .float y => match a.asInt? with
    | some n => y.isInt n
    | none => false
  | a, b => match a.asInt?, b.asInt? with
    | some m, some n => m == n
    | _, _ => false

/-- Whether two keys name the same entry: numbers by their value, everything else by identity. -/
def isSameKey : Value → Value → Bool
  | .null, .null => true
  | .text s, .text t => s == t
  | .date s, .date t => s == t
  | .foreign f, .foreign g => f == g
  | .float x, .float y => x == y || x.same y
  | a, b => sameNumber a b

@[simp] theorem isSameKey_text (s t : String) : isSameKey (.text s) (.text t) = (s == t) := rfl

@[simp] theorem isSameKey_self_text (s : String) : isSameKey (.text s) (.text s) = true := by simp

end Value

namespace Mapping

/-- The value at a key. -/
def get? (entries : Mapping) (key : Value) : Option Value :=
  (entries.find? fun e => e.1.isSameKey key).map (·.2)

/-- The value at a key, or null. -/
def get (entries : Mapping) (key : Value) : Value := (entries.get? key).getD .null

end Mapping

namespace Value

mutual

/-- Whether two values count as equal. -/
def same : Value → Value → Bool
  | .null, .null => true
  | .text s, .text t => s == t
  | .date s, .date t => s == t
  | .foreign f, .foreign g => f == g
  | .list xs, .list ys => sameItems xs ys
  | .entry j v, .entry k w => same j k && same v w
  | .map es, .map fs => es.length == fs.length && sameEntries es fs
  | a, b => sameNumber a b

/-- Whether two lists are equal item by item. -/
def sameItems : List Value → List Value → Bool
  | [], [] => true
  | x :: xs, y :: ys => same x y && sameItems xs ys
  | _, _ => false

/-- Whether every entry of the first mapping has an equal one in the second. -/
def sameEntries : List (Value × Value) → Mapping → Bool
  | [], _ => true
  | (k, v) :: rest, fs =>
    (match Mapping.get? fs k with
      | some w => same v w
      | none => false) && sameEntries rest fs

end

end Value
end Metastore
