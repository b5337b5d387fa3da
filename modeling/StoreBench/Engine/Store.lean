import StoreBench.Pair

/-!
An ordered store of byte strings.

The store is a search tree; `toList`, its pairs in ascending order of keys, says what it holds.
-/

namespace StoreBench.Engine

inductive Store where
  | empty
  | node (left : Store) (pair : Pair) (right : Store)

namespace Store

/-- The pairs in ascending order of keys. -/
def toList : Store → List Pair
  | .empty => []
  | .node left pair right => left.toList ++ pair :: right.toList

def size : Store → Nat
  | .empty => 0
  | .node left _ right => left.size + 1 + right.size

theorem length_toList (store : Store) : store.toList.length = store.size := by
  induction store with
  | empty => rfl
  | node left pair right leftLength rightLength =>
      simp [toList, size, leftLength, rightLength]
      omega

def find? (key : Bytes) : Store → Option Bytes
  | .empty => none
  | .node left pair right =>
    if key < pair.key then left.find? key
    else if pair.key < key then right.find? key
    else some pair.value

/-- Stores a pair in place of any other with its key. -/
def insert (new : Pair) : Store → Store
  | .empty => .node .empty new .empty
  | .node left pair right =>
    if new.key < pair.key then .node (left.insert new) pair right
    else if pair.key < new.key then .node left pair (right.insert new)
    else .node left new right

/-- The least pair, and the store without it. -/
def popLeast? : Store → Option (Pair × Store)
  | .empty => none
  | .node left pair right =>
    match left.popLeast? with
    | none => some (pair, right)
    | some (least, left) => some (least, .node left pair right)

/-- A store of the pairs of two, all keys of the first below those of the second. -/
def join (left right : Store) : Store :=
  match right.popLeast? with
  | none => left
  | some (least, right) => .node left least right

def erase (key : Bytes) : Store → Store
  | .empty => .empty
  | .node left pair right =>
    if key < pair.key then .node (left.erase key) pair right
    else if pair.key < key then .node left pair (right.erase key)
    else left.join right

def least? : Store → Option Pair
  | .empty => none
  | .node left pair _ => left.least?.or (some pair)

def leastAbove? (key : Bytes) : Store → Option Pair
  | .empty => none
  | .node left pair right =>
    if key < pair.key then (left.leastAbove? key).or (some pair) else right.leastAbove? key

end Store

end StoreBench.Engine
