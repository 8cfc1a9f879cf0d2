import Mathlib
import Metastore.Value

/-!
# The nodes of a value

A value is a tree: lists and mappings branch, and everything else is a leaf. A node is what the tree
has at one place, without what is below it, so that two trees can be compared place by place.
-/

namespace Metastore

/-- What a value has at one place of its tree: a text, the length of a list, the keys of a mapping,
or any other value, which has nothing below it; so an entry in a list of entries is a leaf. -/
inductive Value.Node where
  | text (s : String)
  | list (length : Nat)
  | map (keys : List Value)
  | leaf (v : Value)

namespace Value

/-- The node at the root of a value. -/
def root : Value → Node
  | .text s => .text s
  | .list items => .list items.length
  | .map entries => .map (entries.map (·.1))
  | v => .leaf v

/-- What is right below the root at a position: an item of a list, or the value of an entry. -/
def child? : Value → Nat → Option Value
  | .list items, i => items[i]?
  | .map entries, i => entries[i]?.map (·.2)
  | _, _ => none

/-- What is below the root at the end of a walk, which is a list of positions. -/
def below? (v : Value) : List Nat → Option Value
  | [] => some v
  | i :: walk => (v.child? i).bind (·.below? walk)

/-- The node at the end of a walk. -/
def node? (v : Value) (walk : List Nat) : Option Node := (v.below? walk).map root

variable {f : Value → Value}

/-- A change of values that goes on below the root makes the same change at the end of every walk. -/
lemma below?_of_child? (h : ∀ v i, (f v).child? i = (v.child? i).map f) (v : Value) (walk : List Nat) :
    (f v).below? walk = (v.below? walk).map f := by
  induction walk generalizing v with
  | nil => simp [below?]
  | cons i walk ih =>
    simp only [below?, h]
    cases v.child? i with
    | none => rfl
    | some w => exact ih w

end Value
end Metastore
