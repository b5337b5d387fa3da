import StoreBench.Keys.Walk

/-!
Pairs generated ahead of time, so that a transaction spends its time in engine calls only.
-/

namespace StoreBench.Keys

structure Pool where
  size : Nat
  pairs : List Pair

namespace Pool

def fill (pool : Pool) (walk : Walk) : Pool × Walk :=
  let (pairs, walk) := walk.take pool.size
  ({ pool with pairs }, walk)

/-- A full pool of `size` pairs.  Its buffer must be addressable. -/
def new (walk : Walk) (size : Nat) : Except Panic (Pool × Walk) :=
  let bytes := size * (walk.shape.keySize + walk.valueSize)
  if wordLimit ≤ bytes then .error .overflow
  else if wordLimit / 2 ≤ bytes then .error .allocation
  else .ok (fill ⟨size, []⟩ walk)

/-- The next pair, or `none` once the pool is drained. -/
def pull (pool : Pool) : Option Pair × Pool :=
  match pool.pairs with
  | [] => (none, pool)
  | pair :: pairs => (some pair, { pool with pairs })

def pulls (pool : Pool) : Nat → List (Option Pair) × Pool
  | 0 => ([], pool)
  | count + 1 =>
    let (pair, pool) := pool.pull
    let (pairs, pool) := pool.pulls count
    (pair :: pairs, pool)

end Pool

end StoreBench.Keys
