import Mathlib.Algebra.Group.Action.Defs
import Mathlib.Algebra.Order.BigOperators.Group.List
import Mathlib.Algebra.Order.Ring.Nat
import StoreBench.Proofs.Latency.Ranks
import StoreBench.Proofs.Latency.Tables

/-! The bucket table of a summary.

The bounds of the buckets ascend, so every latency below `never` is in the range of exactly one
bucket, the one it is counted in.  A summary shows the buckets that hold samples.  Its table is
therefore a partition of the samples, from the bucket of the least latency to that of the greatest.
-/

namespace StoreBench.Latency

/-- Among ascending values, those up to a limit come first. -/
theorem lt_countP_iff {values : List Nat} (ascending : values.Pairwise (· < ·)) {place : Nat}
    (inside : place < values.length) (limit : Nat) :
    place < values.countP (· ≤ limit) ↔ values[place] ≤ limit := by
  induction values generalizing place with
  | nil => exact absurd inside (Nat.not_lt_zero _)
  | cons value values ih =>
      obtain ⟨less, ascending⟩ := List.pairwise_cons.mp ascending
      by_cases within : value ≤ limit
      · cases place with
        | zero => simp [within]
        | succ place =>
            have rest := ih ascending (Nat.lt_of_succ_lt_succ inside)
            simpa [List.countP_cons, within] using rest
      · have none : values.countP (· ≤ limit) = 0 := by
          rw [List.countP_eq_zero]
          intro later member
          have := less later member
          rw [decide_eq_true_eq]
          omega
        cases place with
        | zero => simp [within, none]
        | succ place =>
            have := less _ (List.getElem_mem (Nat.lt_of_succ_lt_succ inside))
            simp only [List.countP_cons, within, none, List.getElem_cons_succ]
            simp only [decide_false, Bool.false_eq_true, if_false]
            omega

theorem bounds_ascending : bounds.Pairwise (· < ·) :=
  List.isChain_iff_pairwise.mp (by decide +kernel)

section Bounds

variable {index later latency : Nat}

theorem bound_eq (inside : index < bounds.length) : bound index = bounds[index] := by
  rw [bound, boundTable, Array.getD_eq_getD_getElem?, List.getElem?_toArray,
    List.getElem?_eq_getElem inside, Option.getD_some]

theorem bound_last : bound (bucketCount - 1) = never := by
  decide +kernel

theorem bound_lt (order : index < later) (inside : later < bucketCount) :
    bound index < bound later := by
  rw [← length_bounds] at inside
  rw [bound_eq inside, bound_eq (Nat.lt_trans order inside)]
  exact List.pairwise_iff_getElem.mp bounds_ascending _ _ _ inside order

theorem bound_pos (inside : index < bucketCount) : 0 < bound index := by
  rcases Nat.eq_zero_or_pos index with rfl | positive
  · decide +kernel
  · exact Nat.zero_lt_of_lt (bound_lt positive inside)

theorem lt_countP_bounds (inside : index < bucketCount) :
    index < bounds.countP (· ≤ latency) ↔ bound index ≤ latency := by
  rw [← length_bounds] at inside
  rw [bound_eq inside]
  exact lt_countP_iff bounds_ascending inside latency

theorem bucketRange_le (inside : index < bucketCount) :
    (bucketRange index).1 ≤ (bucketRange index).2 := by
  cases index with
  | zero => exact Nat.zero_le _
  | succ index =>
      have := bound_lt (Nat.lt_succ_self index) inside
      simp only [bucketRange, Nat.add_one_ne_zero, if_false, Nat.add_sub_cancel]
      rw [Nat.succ_eq_add_one] at this
      omega

theorem bucketRange_lt (order : index < later) (inside : later < bucketCount) :
    (bucketRange index).2 < (bucketRange later).1 := by
  have positive := bound_pos (Nat.lt_trans order inside)
  simp only [bucketRange, if_neg (show later ≠ 0 by omega)]
  rcases Nat.eq_or_lt_of_le (show index ≤ later - 1 by omega) with rfl | before
  · omega
  · have := bound_lt before (show later - 1 < bucketCount by omega)
    omega

/-- A latency is counted in the bucket whose range it is in. -/
theorem bucketIndex_eq_iff (bounded : latency < never) (inside : index < bucketCount) :
    (bucketIndex latency).val = index ↔
      (bucketRange index).1 ≤ latency ∧ latency ≤ (bucketRange index).2 := by
  have last : ¬ bucketCount - 1 < bounds.countP (· ≤ latency) := by
    rw [lt_countP_bounds (by decide), bound_last]
    omega
  have place : (bucketIndex latency).val = bounds.countP (· ≤ latency) :=
    Nat.min_eq_left (Nat.not_lt.mp last)
  have above := @lt_countP_bounds index latency inside
  have positive := bound_pos inside
  rw [place]
  cases index with
  | zero =>
      simp only [bucketRange, if_true]
      omega
  | succ index =>
      have below := @lt_countP_bounds index latency (Nat.lt_of_succ_lt inside)
      simp only [bucketRange, Nat.succ_ne_zero, if_false, Nat.add_sub_cancel]
      omega

end Bounds

/-- The latency is in the range of the bucket. -/
def BucketCount.Has (bucket : BucketCount) (latency : Nat) : Prop :=
  bucket.low ≤ latency ∧ latency ≤ bucket.high

instance (bucket : BucketCount) (latency : Nat) : Decidable (bucket.Has latency) :=
  inferInstanceAs (Decidable (_ ∧ _))

/-- Bucket by bucket, every latency of one is below all those of the next. -/
def Ascending (buckets : List BucketCount) : Prop :=
  buckets.Pairwise fun earlier later => earlier.high < later.low

section Ends

variable {buckets : List BucketCount} {samples : List Sample} {latency : Nat}

theorem Ascending.head_has (ascending : Ascending buckets)
    (inhabited : ∀ bucket ∈ buckets, ∃ sample ∈ samples, bucket.Has sample.latency)
    (covers : ∃ bucket ∈ buckets, bucket.Has latency)
    (least : ∀ sample ∈ samples, latency ≤ sample.latency) :
    ∃ bucket, buckets.head? = some bucket ∧ bucket.Has latency := by
  obtain ⟨bucket, member, has⟩ := covers
  cases buckets with
  | nil => cases member
  | cons first rest =>
      refine ⟨first, rfl, ?_⟩
      rcases List.mem_cons.mp member with rfl | member
      · exact has
      · have before := (List.pairwise_cons.mp ascending).1 bucket member
        obtain ⟨sample, present, low, high⟩ := inhabited first List.mem_cons_self
        have := least sample present
        have := has.1
        omega

theorem Ascending.last_has (ascending : Ascending buckets)
    (inhabited : ∀ bucket ∈ buckets, ∃ sample ∈ samples, bucket.Has sample.latency)
    (covers : ∃ bucket ∈ buckets, bucket.Has latency)
    (greatest : ∀ sample ∈ samples, sample.latency ≤ latency) :
    ∃ bucket, buckets.getLast? = some bucket ∧ bucket.Has latency := by
  obtain ⟨bucket, member, has⟩ := covers
  rcases List.eq_nil_or_concat buckets with rfl | ⟨front, last, rfl⟩
  · cases member
  · rw [List.concat_eq_append] at *
    refine ⟨last, List.getLast?_concat, ?_⟩
    rcases List.mem_append.mp member with member | member
    · have before := (List.pairwise_append.mp ascending).2.2 bucket member last
        List.mem_cons_self
      obtain ⟨sample, present, low, high⟩ :=
        inhabited last (List.mem_append_right _ List.mem_cons_self)
      have := greatest sample present
      have := has.2
      omega
    · obtain rfl := List.mem_singleton.mp member
      exact has

end Ends

namespace Content

variable {samples : List Sample}

theorem buckets_ofSamples (samples : List Sample) {bucket : Nat} (inside : bucket < bucketCount) :
    (ofSamples samples).buckets[bucket] =
      samples.countP fun sample => (bucketIndex sample.latency).val = bucket :=
  getElem_ofSamples (fun sample => bucketIndex sample.latency) rfl (fun _ => rfl) (fun _ _ => rfl)
    samples inside

theorem sum_buckets (samples : List Sample) :
    (ofSamples samples).buckets.toList.sum = samples.length := by
  induction samples with
  | nil =>
      change (Vector.replicate bucketCount 0).toList.sum = 0
      simp
  | cons sample samples ih =>
      have one : (ofSample sample).buckets.toList.sum = 1 := by
        change ((Vector.replicate bucketCount 0).set (bucketIndex sample.latency) 1).toList.sum = 1
        rw [Vector.toList_set, Vector.toList_replicate, List.sum_set]
        simp
      rw [ofSamples_cons]
      change ((ofSample sample).buckets.zipWith (· + ·) (ofSamples samples).buckets).toList.sum = _
      rw [Vector.toList_zipWith, ← List.sum_add_sum_eq_sum_zipWith_of_length_eq _ _ (by simp), one,
        ih, List.length_cons, Nat.add_comm]

theorem exists_least (some : samples ≠ [])
    (bounded : ∀ sample ∈ samples, sample.latency < never) :
    ∃ sample ∈ samples, sample.latency = (ofSamples samples).least := by
  induction samples with
  | nil => exact absurd rfl some
  | cons sample samples ih =>
      have below := bounded sample List.mem_cons_self
      rw [ofSamples_cons]
      change ∃ other ∈ sample :: samples,
        other.latency = min (min never sample.latency) (ofSamples samples).least
      by_cases first : sample.latency ≤ (ofSamples samples).least
      · exact ⟨sample, List.mem_cons_self, by omega⟩
      · have more : samples ≠ [] := by
          rintro rfl
          exact first (Nat.le_of_lt below)
        obtain ⟨other, member, least⟩ :=
          ih more fun other member => bounded other (List.mem_cons_of_mem _ member)
        exact ⟨other, List.mem_cons_of_mem _ member, by omega⟩

theorem exists_greatest (some : samples ≠ []) :
    ∃ sample ∈ samples, sample.latency = (ofSamples samples).greatest := by
  induction samples with
  | nil => exact absurd rfl some
  | cons sample samples ih =>
      rw [ofSamples_cons]
      change ∃ other ∈ sample :: samples,
        other.latency = max sample.latency (ofSamples samples).greatest
      by_cases first : (ofSamples samples).greatest ≤ sample.latency
      · exact ⟨sample, List.mem_cons_self, by omega⟩
      · have more : samples ≠ [] := by
          rintro rfl
          exact first (Nat.zero_le _)
        obtain ⟨other, member, greatest⟩ := ih more
        exact ⟨other, List.mem_cons_of_mem _ member, by omega⟩

end Content

namespace Account

variable {account : Account} {samples : List Sample} {bucket : BucketCount}

theorem mem_bucketCounts : bucket ∈ account.bucketCounts ↔
    ∃ index : Fin bucketCount, account.buckets[index] ≠ 0 ∧
      bucket = ⟨(bucketRange index).1, (bucketRange index).2, account.buckets[index]⟩ := by
  simp only [bucketCounts, List.mem_filterMap, Prod.exists, List.mem_zipIdx_iff_getElem?,
    Vector.getElem?_toList]
  constructor
  · rintro ⟨count, index, found, shown⟩
    obtain ⟨inside, rfl⟩ := Vector.getElem?_eq_some_iff.mp found
    split at shown
    · cases shown
    · next some => exact ⟨⟨index, inside⟩, some, (Option.some.inj shown).symm⟩
  · rintro ⟨⟨index, inside⟩, some, rfl⟩
    exact ⟨account.buckets[index], index, Vector.getElem?_eq_getElem inside, if_neg some⟩

theorem bucketCounts_ascending (account : Account) : Ascending account.bucketCounts := by
  rw [Ascending, bucketCounts, List.pairwise_filterMap, List.pairwise_iff_getElem]
  intro index later within inside order earlier shown other shownToo
  rw [List.getElem_zipIdx, Nat.zero_add] at shown shownToo
  rw [List.length_zipIdx, Vector.length_toList] at inside
  dsimp only at shown shownToo
  split at shown
  · cases shown
  split at shownToo
  · cases shownToo
  cases shown
  cases shownToo
  exact bucketRange_lt order inside

theorem sum_bucketCounts (account : Account) :
    (account.bucketCounts.map BucketCount.count).sum = account.buckets.toList.sum := by
  have shown (counts : List Nat) (start : Nat) :
      (((counts.zipIdx start).filterMap fun entry =>
        if entry.1 = 0 then Option.none
        else some (⟨(bucketRange entry.2).1, (bucketRange entry.2).2, entry.1⟩ : BucketCount)).map
          BucketCount.count).sum = counts.sum := by
    induction counts generalizing start with
    | nil => rfl
    | cons count counts ih =>
        rw [List.zipIdx_cons, List.filterMap_cons]
        by_cases none : count = 0
        · simp [none, ih]
        · simp [none, ih]
  exact shown account.buckets.toList 0

namespace Tabulates

variable (tabulates : account.Tabulates samples)
  (bounded : ∀ sample ∈ samples, sample.latency < never)

include tabulates

theorem buckets_eq {index : Nat} (inside : index < bucketCount) :
    account.buckets[index] =
      samples.countP fun sample => (bucketIndex sample.latency).val = index := by
  have same : account.buckets = (Content.ofSamples samples).buckets :=
    congrArg Tables.buckets tabulates
  simp only [same, Content.buckets_ofSamples]

theorem total : (account.bucketCounts.map BucketCount.count).sum = samples.length := by
  have same : account.buckets = (Content.ofSamples samples).buckets :=
    congrArg Tables.buckets tabulates
  rw [account.sum_bucketCounts, same, Content.sum_buckets]

include bounded

/-- A bucket counts the samples in its range, of which there is at least one. -/
theorem counts (shown : bucket ∈ account.bucketCounts) :
    0 < bucket.count ∧ bucket.count = samples.countP fun sample => bucket.Has sample.latency := by
  obtain ⟨index, some, rfl⟩ := mem_bucketCounts.mp shown
  refine ⟨Nat.pos_of_ne_zero some, ?_⟩
  change account.buckets[index.val] = _
  rw [tabulates.buckets_eq index.isLt]
  refine List.countP_congr fun sample member => ?_
  rw [decide_eq_true_eq, decide_eq_true_eq]
  exact bucketIndex_eq_iff (bounded sample member) index.isLt

theorem covers {sample : Sample} (member : sample ∈ samples) :
    ∃ bucket ∈ account.bucketCounts, bucket.Has sample.latency := by
  refine ⟨_, mem_bucketCounts.mpr ⟨bucketIndex sample.latency, ?_, rfl⟩,
    (bucketIndex_eq_iff (bounded sample member) (bucketIndex sample.latency).isLt).mp rfl⟩
  have counted : 0 < samples.countP fun other =>
      (bucketIndex other.latency).val = (bucketIndex sample.latency).val :=
    List.countP_pos_iff.mpr ⟨sample, member, decide_eq_true rfl⟩
  rw [← tabulates.buckets_eq (bucketIndex sample.latency).isLt] at counted
  exact Nat.pos_iff_ne_zero.mp counted

end Tabulates

end Account

/-- The table of a summary divides the samples among its buckets. -/
structure Summary.Partitions (summary : Summary) (samples : List Sample) : Prop where
  count : summary.count = samples.length
  least : (∃ sample ∈ samples, sample.latency = summary.least) ∧
    ∀ sample ∈ samples, summary.least ≤ sample.latency
  greatest : (∃ sample ∈ samples, sample.latency = summary.greatest) ∧
    ∀ sample ∈ samples, sample.latency ≤ summary.greatest
  ranges : ∀ bucket ∈ summary.buckets,
    (∃ index < bucketCount, (bucket.low, bucket.high) = bucketRange index) ∧
      bucket.low ≤ bucket.high
  ascending : Ascending summary.buckets
  counts : ∀ bucket ∈ summary.buckets,
    0 < bucket.count ∧ bucket.count = samples.countP fun sample => bucket.Has sample.latency
  covers : ∀ sample ∈ samples, ∃ bucket ∈ summary.buckets, bucket.Has sample.latency
  total : (summary.buckets.map BucketCount.count).sum = summary.count
  first : ∃ bucket, summary.buckets.head? = some bucket ∧ bucket.Has summary.least
  last : ∃ bucket, summary.buckets.getLast? = some bucket ∧ bucket.Has summary.greatest
  mean : summary.least ≤ summary.mean ∧ summary.mean ≤ summary.greatest

namespace Hub

variable {hub : Hub} {kind : Kind} {shown fresh : List Sample}

theorem summary?_table {summary : Summary} (told : hub.summary? kind = some summary) :
    summary.buckets = (hub.accounts.get kind).bucketCounts ∧
      summary.mean = (hub.accounts.get kind).total.mean := by
  unfold summary? at told
  dsimp only at told
  split at told
  · cases told
  · cases told
    exact ⟨rfl, rfl⟩

end Hub

namespace Content

variable {samples : List Sample}

/-- The mean is between the extremes. -/
theorem mean_between (some : samples ≠ []) :
    (ofSamples samples).least ≤ (ofSamples samples).tally.mean ∧
      (ofSamples samples).tally.mean ≤ (ofSamples samples).greatest := by
  have count := count_ofSamples samples
  have latency : (ofSamples samples).tally.latency = (samples.map Sample.latency).sum :=
    congrArg Tally.latency (ofSamples_figures [] samples).1
  have positive := List.length_pos_iff.mpr some
  rw [Tally.mean, count, latency]
  constructor
  · rw [Nat.le_div_iff_mul_le positive, Nat.mul_comm]
    have least := List.card_nsmul_le_sum (samples.map Sample.latency) (ofSamples samples).least
      fun latency member => by
        obtain ⟨sample, present, rfl⟩ := List.mem_map.mp member
        exact least_le present
    rwa [List.length_map, smul_eq_mul] at least
  · refine Nat.div_le_of_le_mul ?_
    have most := List.sum_le_card_nsmul (samples.map Sample.latency) (ofSamples samples).greatest
      fun latency member => by
        obtain ⟨sample, present, rfl⟩ := List.mem_map.mp member
        exact le_greatest present
    rwa [List.length_map, smul_eq_mul] at most

end Content

namespace Hub

theorem summary?_partitions {hub : Hub} {kind : Kind} {shown fresh : List Sample}
    (shows : (hub.accounts.get kind).Shows shown fresh)
    (tabulates : (hub.accounts.get kind).Tabulates (shown ++ fresh)) (some : shown ++ fresh ≠ [])
    (bounded : ∀ sample ∈ shown ++ fresh, sample.latency < never) :
    ∃ summary, hub.summary? kind = .some summary ∧ summary.Partitions (shown ++ fresh) := by
  rcases summary?_of shows with ⟨_, none⟩ | ⟨summary, told, _, count, least, greatest⟩
  · exact absurd none some
  refine ⟨summary, told, ?_⟩
  obtain ⟨buckets, mean⟩ := summary?_table told
  have total : (hub.accounts.get kind).total = (Content.ofSamples (shown ++ fresh)).tally := by
    rw [shows.divided.total, Content.ofSamples_append, Content.tally_add]
  rw [total] at mean
  generalize shown ++ fresh = samples at *
  have lowest : (∃ sample ∈ samples, sample.latency = summary.least) ∧
      ∀ sample ∈ samples, summary.least ≤ sample.latency := by
    rw [least]
    exact ⟨Content.exists_least some bounded, fun _ => Content.least_le⟩
  have highest : (∃ sample ∈ samples, sample.latency = summary.greatest) ∧
      ∀ sample ∈ samples, sample.latency ≤ summary.greatest := by
    rw [greatest]
    exact ⟨Content.exists_greatest some, fun _ => Content.le_greatest⟩
  have ascending : Ascending summary.buckets := by
    rw [buckets]
    exact (hub.accounts.get kind).bucketCounts_ascending
  have counts : ∀ bucket ∈ summary.buckets, 0 < bucket.count ∧
      bucket.count = samples.countP fun sample => bucket.Has sample.latency := by
    rw [buckets]
    exact fun _ => tabulates.counts bounded
  have covers : ∀ sample ∈ samples, ∃ bucket ∈ summary.buckets, bucket.Has sample.latency := by
    rw [buckets]
    exact fun _ => tabulates.covers bounded
  have inhabited : ∀ bucket ∈ summary.buckets, ∃ sample ∈ samples, bucket.Has sample.latency := by
    intro bucket member
    obtain ⟨positive, counted⟩ := counts bucket member
    rw [counted] at positive
    obtain ⟨sample, present, has⟩ := List.countP_pos_iff.mp positive
    exact ⟨sample, present, of_decide_eq_true has⟩
  refine
    { count := count
      least := lowest
      greatest := highest
      ranges := ?_
      ascending := ascending
      counts := counts
      covers := covers
      total := by rw [buckets, tabulates.total, count]
      first := ?_
      last := ?_
      mean := ?_ }
  · intro bucket member
    rw [buckets] at member
    obtain ⟨index, _, rfl⟩ := Account.mem_bucketCounts.mp member
    exact ⟨⟨index, index.isLt, rfl⟩, bucketRange_le index.isLt⟩
  · obtain ⟨⟨sample, member, same⟩, bound⟩ := lowest
    rw [← same] at bound ⊢
    exact ascending.head_has inhabited (covers sample member) bound
  · obtain ⟨⟨sample, member, same⟩, bound⟩ := highest
    rw [← same] at bound ⊢
    exact ascending.last_has inhabited (covers sample member) bound
  · rw [mean, least, greatest]
    exact Content.mean_between some

end Hub

namespace History

/-- However samples were recorded and folded, and however many lines were emitted on the way, the
bucket table of a summary is a partition of all samples folded. -/
theorem buckets_partition (history : History) (fits : history.Fits) (kind : Kind)
    (some : history.chronicle.given kind ≠ [])
    (bounded : ∀ sample ∈ history.chronicle.given kind, sample.latency < never) :
    ∃ summary, history.books.hub.summary? kind = .some summary ∧
      summary.Partitions (history.chronicle.given kind) := by
  obtain ⟨tells, counts⟩ := counted fits
  exact Hub.summary?_partitions (tells.hub kind) (counts.hub kind) some bounded

/-- Samples on both sides of a bound, and the longest that a bucket has room for; a line is emitted
in between. -/
def edges : History :=
  ⟨1000000, 0, [.enable .set, .attach 0, .attach 0, .reset 0 .set 0, .reset 1 .set 0, .add 0 0 8 1,
    .add 1 0 9 1, .merge 1 9, .finish 10, .add 0 1 never 1, .merge 0 never, .add 1 5 5 1,
    .merge 1 never]⟩

theorem buckets_partition_edges :
    (edges.Fits ∧ edges.chronicle.given .set ≠ [] ∧
      (∀ sample ∈ edges.chronicle.given .set, sample.latency < never) ∧
      ∃ summary, edges.books.hub.summary? .set = some summary ∧
        summary.Partitions (edges.chronicle.given .set)) ∧
      edges.chronicle.given .set = [⟨0, 9, 1⟩, ⟨0, 8, 1⟩, ⟨1, never, 1⟩, ⟨5, 5, 1⟩] := by
  have fits : edges.Fits := by decide +kernel
  have given : edges.chronicle.given .set =
      [⟨0, 9, 1⟩, ⟨0, 8, 1⟩, ⟨1, never, 1⟩, ⟨5, 5, 1⟩] := by
    decide +kernel
  have some : edges.chronicle.given .set ≠ [] := by
    rw [given]
    exact List.cons_ne_nil _ _
  have bounded : ∀ sample ∈ edges.chronicle.given .set, sample.latency < never := by
    rw [given]
    decide
  exact ⟨⟨fits, some, bounded, buckets_partition edges fits .set some bounded⟩, given⟩

end History

end StoreBench.Latency
