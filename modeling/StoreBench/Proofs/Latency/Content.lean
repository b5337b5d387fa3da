import Mathlib.Algebra.BigOperators.Group.List.Basic
import Mathlib.Algebra.Order.Monoid.Canonical.Defs
import StoreBench.Proofs.Latency.Ensemble

/-! What a set of samples leaves in the books.

A content is the trace of some samples: their running sums, their extremes and their counts by
bucket and by bin.  Contents are added up, and neither the order nor the grouping matters.  An
account holds two contents: what a worker has not flushed yet, and what a hub has ever been given.
-/

namespace StoreBench.Latency

/-- An operation that was timed. -/
structure Sample where
  start : Nat
  now : Nat
  volume : Nat
  deriving DecidableEq

/-- A clock that ran backwards gives latency zero. -/
def Sample.latency (sample : Sample) : Nat :=
  sample.now - sample.start

namespace Tally

theorem ext_fields {left right : Tally} (count : left.count = right.count)
    (latency : left.latency = right.latency) (squares : left.squares = right.squares)
    (volume : left.volume = right.volume) : left = right := by
  cases left
  cases right
  simp_all only

instance : Zero Tally := ⟨.zero⟩

@[simp] theorem count_add (left right : Tally) :
    (left + right).count = left.count + right.count := rfl

@[simp] theorem latency_add (left right : Tally) :
    (left + right).latency = left.latency + right.latency := rfl

@[simp] theorem squares_add (left right : Tally) :
    (left + right).squares = left.squares + right.squares := rfl

@[simp] theorem volume_add (left right : Tally) :
    (left + right).volume = left.volume + right.volume := rfl

@[simp] theorem count_zero : (0 : Tally).count = 0 := rfl

@[simp] theorem latency_zero : (0 : Tally).latency = 0 := rfl

@[simp] theorem squares_zero : (0 : Tally).squares = 0 := rfl

@[simp] theorem volume_zero : (0 : Tally).volume = 0 := rfl

instance : AddCommMonoid Tally where
  add_assoc a b c := by apply ext_fields <;> simp [Nat.add_assoc]
  zero_add a := by apply ext_fields <;> simp
  add_zero a := by apply ext_fields <;> simp
  add_comm a b := by apply ext_fields <;> simp [Nat.add_comm]
  nsmul := nsmulRec

instance : PartialOrder Tally where
  le a b := a.count ≤ b.count ∧ a.latency ≤ b.latency ∧ a.squares ≤ b.squares ∧ a.volume ≤ b.volume
  le_refl _ := ⟨le_rfl, le_rfl, le_rfl, le_rfl⟩
  le_trans _ _ _ first second :=
    ⟨first.1.trans second.1, first.2.1.trans second.2.1, first.2.2.1.trans second.2.2.1,
      first.2.2.2.trans second.2.2.2⟩
  le_antisymm _ _ below above :=
    ext_fields (below.1.antisymm above.1) (below.2.1.antisymm above.2.1)
      (below.2.2.1.antisymm above.2.2.1) (below.2.2.2.antisymm above.2.2.2)

theorem le_iff {left right : Tally} : left ≤ right ↔ left.count ≤ right.count ∧
    left.latency ≤ right.latency ∧ left.squares ≤ right.squares ∧ left.volume ≤ right.volume :=
  Iff.rfl

instance : IsOrderedAddMonoid Tally where
  add_le_add_left a b below c := by
    simp only [le_iff, count_add, latency_add, squares_add, volume_add] at below ⊢
    omega

instance : CanonicallyOrderedAdd Tally where
  exists_add_of_le {a b} below := by
    refine ⟨b.since a, ?_⟩
    simp only [le_iff] at below
    apply ext_fields <;> simp [since] <;> omega
  le_self_add a b := by
    simp [le_iff]
  le_add_self a b := by
    simp [le_iff]

/-- Sums fit if greater ones do. -/
theorem Fits.mono {left right : Tally} (fits : right.Fits) (below : left ≤ right) : left.Fits :=
  ⟨below.1.trans_lt fits.1, below.2.1.trans_lt fits.2.1, below.2.2.1.trans_lt fits.2.2.1,
    below.2.2.2.trans_lt fits.2.2.2⟩

theorem Fits.left {left right : Tally} (fits : (left + right).Fits) : left.Fits :=
  fits.mono le_self_add

theorem since_add (flushed more : Tally) : (flushed + more).since flushed = more := by
  apply ext_fields <;> simp [since]

end Tally

@[ext] structure Content where
  tally : Tally
  least : Nat
  greatest : Nat
  buckets : Vector Nat bucketCount
  bins : Bins
  least_le_never : least ≤ never

namespace Content

def empty : Content :=
  ⟨0, never, 0, Vector.replicate bucketCount 0, Vector.replicate binCount 0, Nat.le_refl _⟩

def add (left right : Content) : Content :=
  ⟨left.tally + right.tally, min left.least right.least, max left.greatest right.greatest,
    left.buckets.zipWith (· + ·) right.buckets, left.bins.zipWith (· + ·) right.bins,
    Nat.le_trans (Nat.min_le_left _ _) left.least_le_never⟩

instance : Zero Content := ⟨empty⟩

instance : Add Content := ⟨add⟩

private theorem zipWith_add_assoc {size : Nat} (a b c : Vector Nat size) :
    (a.zipWith (· + ·) b).zipWith (· + ·) c = a.zipWith (· + ·) (b.zipWith (· + ·) c) := by
  ext index inside
  simp only [Vector.getElem_zipWith, Nat.add_assoc]

private theorem zipWith_add_comm {size : Nat} (a b : Vector Nat size) :
    a.zipWith (· + ·) b = b.zipWith (· + ·) a := by
  ext index inside
  simp only [Vector.getElem_zipWith, Nat.add_comm]

private theorem zipWith_zero_add {size : Nat} (a : Vector Nat size) :
    (Vector.replicate size 0).zipWith (· + ·) a = a := by
  ext index inside
  simp only [Vector.getElem_zipWith, Vector.getElem_replicate, Nat.zero_add]

private theorem content_add_comm (a b : Content) : a + b = b + a :=
  Content.ext (add_comm a.tally b.tally) (Nat.min_comm _ _) (Nat.max_comm _ _)
    (zipWith_add_comm _ _) (zipWith_add_comm _ _)

private theorem content_zero_add (a : Content) : 0 + a = a :=
  Content.ext (zero_add a.tally) (Nat.min_eq_right a.least_le_never) (Nat.zero_max _)
    (zipWith_zero_add _) (zipWith_zero_add _)

instance : AddCommMonoid Content where
  add_assoc a b c :=
    Content.ext (add_assoc a.tally b.tally c.tally) (Nat.min_assoc _ _ _) (Nat.max_assoc _ _ _)
      (zipWith_add_assoc _ _ _) (zipWith_add_assoc _ _ _)
  zero_add := content_zero_add
  add_zero a := (content_add_comm a 0).trans (content_zero_add a)
  add_comm := content_add_comm
  nsmul := nsmulRec

@[simp] theorem tally_add (a b : Content) : (a + b).tally = a.tally + b.tally := rfl

@[simp] theorem tally_zero : (0 : Content).tally = 0 := rfl

/-- The content of a single sample. -/
def ofSample (sample : Sample) : Content :=
  { tally := .ofSample sample.latency sample.volume
    least := min never sample.latency
    greatest := sample.latency
    buckets := (Vector.replicate bucketCount 0).set (bucketIndex sample.latency) 1
    bins := (Vector.replicate binCount 0).set (binOf sample.latency) 1
    least_le_never := Nat.min_le_left _ _ }

def ofSamples (samples : List Sample) : Content :=
  (samples.map ofSample).sum

@[simp] theorem ofSamples_append (earlier later : List Sample) :
    ofSamples (earlier ++ later) = ofSamples earlier + ofSamples later := by
  rw [ofSamples, List.map_append, List.sum_append]
  rfl

theorem ofSamples_singleton (sample : Sample) : ofSamples [sample] = ofSample sample := by
  rw [ofSamples, List.map_singleton, List.sum_singleton]

theorem ofSamples_cons (sample : Sample) (samples : List Sample) :
    ofSamples (sample :: samples) = ofSample sample + ofSamples samples := by
  rw [← ofSamples_singleton, ← ofSamples_append]
  rfl

theorem tally_ofSamples_singleton (sample : Sample) :
    (ofSamples [sample]).tally = .ofSample sample.latency sample.volume :=
  congrArg tally (ofSamples_singleton sample)

end Content

namespace Account

/-- What an account has not flushed yet. -/
def loose (account : Account) : Content :=
  ⟨account.unflushed, min never account.least, account.greatest, account.buckets, account.bins,
    Nat.min_le_left _ _⟩

/-- What an account has ever been given. -/
def kept (account : Account) : Content :=
  ⟨account.total, min never (min account.pastLeast account.least),
    max account.pastGreatest account.greatest, account.buckets, account.bins,
    Nat.min_le_left _ _⟩

/-- No sum has lost what was flushed from it. -/
def Split (account : Account) : Prop :=
  account.flushed + account.unflushed = account.total

def recorded (account : Account) (sample : Sample) : Account :=
  { account with
    opened := account.opened.or (some sample.start)
    closed := some sample.now
    total := account.total + .ofSample sample.latency sample.volume
    least := min account.least sample.latency
    greatest := max account.greatest sample.latency
    buckets := account.buckets.set (bucketIndex sample.latency)
      (account.buckets[bucketIndex sample.latency] + 1)
    bins := account.bins.set (binOf sample.latency) (account.bins[binOf sample.latency] + 1) }

def folded (account source : Account) : Account :=
  { account with
    total := account.total + source.unflushed
    least := min account.least source.least
    greatest := max account.greatest source.greatest
    opened := earliest account.opened source.opened
    closed := latest account.closed source.closed
    buckets := account.buckets.zipWith (· + ·) source.buckets
    bins := account.bins.zipWith (· + ·) source.bins }

theorem record_of_fits {account : Account} {sample : Sample}
    (fits : (account.total + .ofSample sample.latency sample.volume).Fits) :
    account.record sample.start sample.now sample.volume = (.ok (), account.recorded sample) := by
  have grown := Tally.grow_of_fits fits
  rw [Sample.latency] at grown
  simp only [record, grown]
  rfl

theorem fold_of_fits {account source : Account}
    (fits : (account.total + source.unflushed).Fits) :
    account.fold source = (.ok (), account.folded source) := by
  simp only [fold, Tally.grow_of_fits fits, folded]

theorem split_new : new.Split := rfl

theorem split_roll (account : Account) : account.roll.Split := by
  have nothing : account.roll.unflushed = 0 := by
    apply Tally.ext_fields <;> simp [unflushed, Tally.since, roll]
  rw [Split, nothing, add_zero]
  rfl

theorem Split.recorded {account : Account} (split : account.Split) (sample : Sample) :
    (account.recorded sample).unflushed =
      account.unflushed + .ofSample sample.latency sample.volume := by
  change (account.total + .ofSample sample.latency sample.volume).since account.flushed = _
  rw [← split, add_assoc, Tally.since_add]

theorem Split.split_recorded {account : Account} (split : account.Split) (sample : Sample) :
    (account.recorded sample).Split := by
  rw [Split, split.recorded]
  change account.flushed + (account.unflushed + _) = account.total + _
  rw [← add_assoc, split]

theorem Split.pending_recorded {account : Account} (split : account.Split) (sample : Sample) :
    (account.recorded sample).pending = true := by
  have total : account.flushed.count + account.unflushed.count = account.total.count :=
    congrArg Tally.count split
  simp only [pending, bne_iff_ne, ne_eq, Account.recorded, Tally.count_add, Tally.ofSample]
  omega

private theorem set_succ {size : Nat} (counts : Vector Nat size) (index : Fin size) :
    counts.set index (counts[index] + 1) =
      counts.zipWith (· + ·) ((Vector.replicate size 0).set index 1) := by
  ext place inside
  simp only [Vector.getElem_zipWith, Vector.getElem_set, Vector.getElem_replicate]
  split
  · next same => subst same; rfl
  · rfl

theorem loose_new : new.loose = 0 :=
  Content.ext rfl (Nat.min_self never) rfl rfl rfl

theorem kept_new (enabled : Bool) : { new with enabled := enabled }.kept = 0 := by
  refine Content.ext rfl ?_ rfl rfl rfl
  change min never (min never never) = never
  rw [Nat.min_self, Nat.min_self]

theorem loose_roll (account : Account) : account.roll.loose = 0 := by
  refine Content.ext ?_ (Nat.min_self never) rfl rfl rfl
  apply Tally.ext_fields <;> simp [loose, unflushed, Tally.since, roll]

theorem Split.loose_recorded {account : Account} (split : account.Split) (sample : Sample) :
    (account.recorded sample).loose = account.loose + Content.ofSample sample := by
  refine Content.ext (split.recorded sample) ?_ rfl (set_succ _ _) (set_succ _ _)
  change min never (min account.least sample.latency) =
    min (min never account.least) (min never sample.latency)
  omega

theorem kept_folded (account source : Account) :
    (account.folded source).kept = account.kept + source.loose := by
  refine Content.ext rfl ?_ ?_ rfl rfl
  · change min never (min account.pastLeast (min account.least source.least)) =
      min (min never (min account.pastLeast account.least)) (min never source.least)
    omega
  · change max account.pastGreatest (max account.greatest source.greatest) =
      max (max account.pastGreatest account.greatest) source.greatest
    omega

theorem kept_turnPage (account : Account) : account.turnPage.kept = account.kept := by
  refine Content.ext rfl ?_ ?_ rfl rfl
  · change min never (min (min account.pastLeast account.least) never) =
      min never (min account.pastLeast account.least)
    omega
  · change max (max account.pastGreatest account.greatest) 0 =
      max account.pastGreatest account.greatest
    omega

end Account

end StoreBench.Latency
