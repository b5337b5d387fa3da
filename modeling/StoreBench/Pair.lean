/-!
Key/value pairs.

Keys and values are byte strings; their order is the lexicographic order of bytes.
-/

namespace StoreBench

abbrev Bytes := List UInt8

structure Pair where
  key : Bytes
  value : Bytes
  deriving DecidableEq

namespace Pair

def empty : Pair := ⟨[], []⟩

/-- Bytes moved by an operation on the pair. -/
def volume (pair : Pair) : Nat :=
  pair.key.length + pair.value.length

end Pair

end StoreBench
