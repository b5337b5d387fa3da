import StoreBench.Keys.Mixer

/-!
A walk through one key space.

A walk hands out the pairs of its space in the order of their serial numbers, from any start, and
begins again after the last one.
-/

namespace StoreBench.Keys

structure Walk where
  shape : Shape
  space : Nat
  serial : Nat
  age : UInt64
  valueSize : Nat
  deriving DecidableEq

namespace Walk

/-- A walk over key space `space`, starting at `start`.  The buffer of one pair must be
addressable. -/
def new (shape : Shape) (space start valueSize : Nat) (age : UInt64) : Except Stop Walk :=
  if shape.spaces ≤ space then .error (.failure (.config (.spaceOutOfRange space shape.spaces)))
  else if wordLimit ≤ shape.keySize + valueSize then .error (.panic .overflow)
  else if wordLimit / 2 ≤ shape.keySize + valueSize then .error (.panic .allocation)
  else .ok { shape, space, serial := start % shape.period, age, valueSize }

def rewind (walk : Walk) (start : Nat) : Walk :=
  { walk with serial := start % walk.shape.period }

def point (walk : Walk) : Nat :=
  walk.space * walk.shape.period + walk.serial

def advance (walk : Walk) : Walk :=
  { walk with serial := (walk.serial + 1) % walk.shape.period }

def next (walk : Walk) : Pair × Walk :=
  (walk.shape.pairAt walk.point walk.valueSize walk.age, walk.advance)

/-- The next key, with an empty value. -/
def nextKey (walk : Walk) : Pair × Walk :=
  (⟨(walk.shape.keyAt walk.point).1, []⟩, walk.advance)

def take (walk : Walk) : Nat → List Pair × Walk
  | 0 => ([], walk)
  | count + 1 =>
    let (pair, walk) := walk.next
    let (pairs, walk) := walk.take count
    (pair :: pairs, walk)

/-- The next `count` keys in order, with empty values. -/
def takeKeys (walk : Walk) : Nat → List Pair × Walk
  | 0 => ([], walk)
  | count + 1 =>
    let (pair, walk) := walk.nextKey
    let (pairs, walk) := walk.takeKeys count
    (pair :: pairs, walk)

end Walk

end StoreBench.Keys
