import StoreBench.Error
import StoreBench.Decimal.Binary64

/-!
Running sums of a set of samples.

The sums are natural numbers.  Growing a tally fails where a sum would leave its integer type; the
sums are grown in a fixed order, and those before the failing one stay grown.
-/

namespace StoreBench.Latency

structure Tally where
  count : Nat
  latency : Nat
  squares : Nat
  volume : Nat
  deriving DecidableEq

namespace Tally

def zero : Tally := ⟨0, 0, 0, 0⟩

def ofSample (latency volume : Nat) : Tally :=
  ⟨1, latency, latency * latency, volume⟩

def add (left right : Tally) : Tally :=
  ⟨left.count + right.count, left.latency + right.latency, left.squares + right.squares,
    left.volume + right.volume⟩

instance : Add Tally := ⟨add⟩

/-- What was added since `earlier`. -/
def since (later earlier : Tally) : Tally :=
  ⟨later.count - earlier.count, later.latency - earlier.latency, later.squares - earlier.squares,
    later.volume - earlier.volume⟩

/-- Every sum fits its integer type: 64 bits for counts and volumes, 128 for latency sums. -/
def Fits (tally : Tally) : Prop :=
  tally.count < wordLimit ∧ tally.latency < wordLimit * wordLimit ∧
    tally.squares < wordLimit * wordLimit ∧ tally.volume < wordLimit

instance (tally : Tally) : Decidable tally.Fits :=
  inferInstanceAs (Decidable (_ ∧ _ ∧ _ ∧ _))

/-- Adds sum by sum and stops at the first that no longer fits. -/
def grow (tally more : Tally) : Except Panic Unit × Tally :=
  let count := tally.count + more.count
  let latency := tally.latency + more.latency
  let squares := tally.squares + more.squares
  let volume := tally.volume + more.volume
  if wordLimit ≤ count then (.error .overflow, tally)
  else if wordLimit * wordLimit ≤ latency then (.error .overflow, { tally with count })
  else if wordLimit * wordLimit ≤ squares then (.error .overflow, { tally with count, latency })
  else if wordLimit ≤ volume then (.error .overflow, { tally with count, latency, squares })
  else (.ok (), ⟨count, latency, squares, volume⟩)

def mean (tally : Tally) : Nat :=
  tally.latency / tally.count

def rootMeanSquare (tally : Tally) : Nat :=
  (Decimal.ofNat (tally.squares / tally.count)).sqrt.toUInt64.toNat

theorem grow_of_fits {tally more : Tally} (fits : (tally + more).Fits) :
    tally.grow more = (.ok (), tally + more) := by
  obtain ⟨count, latency, squares, volume⟩ := fits
  simp only [HAdd.hAdd, Add.add, add] at count latency squares volume
  simp only [Nat.add_eq] at count latency squares volume
  simp only [grow]
  rw [if_neg (by omega), if_neg (by omega), if_neg (by omega), if_neg (by omega)]
  rfl

end Tally

end StoreBench.Latency
