import Mathlib.Algebra.GroupWithZero.Nat
import Mathlib.Data.List.Basic
import StoreBench.Latency.Summary
import StoreBench.Proofs.Latency.Content

/-! Ranks.

The latency of a rank, in ascending order, is the one with fewer than `rank` latencies below it and
at least `rank` up to it.  The walk over the bins stops at the first bin up to which the rank is
reached, so it finds the latency of that rank, where every sample has the latency of its bin.
-/

namespace StoreBench.Latency

/-- The latency of a rank in ascending order; the first one has rank 1. -/
def ranked (latencies : List Nat) (rank : Nat) : Nat :=
  latencies.mergeSort.getD (rank - 1) 0

section Ranked

variable {latencies : List Nat} {rank later latency other : Nat}

theorem countP_around {values : List Nat} (sorted : values.Pairwise (· ≤ ·)) {place : Nat}
    (inside : place < values.length) :
    values.countP (· < values[place]) ≤ place ∧ place < values.countP (· ≤ values[place]) := by
  constructor
  · have none : (values.drop place).countP (· < values[place]) = 0 := by
      rw [List.countP_eq_zero]
      intro value member
      obtain ⟨offset, bound, rfl⟩ := List.mem_iff_getElem.mp member
      rw [List.length_drop] at bound
      rw [List.getElem_drop, decide_eq_true_eq, Nat.not_lt]
      rcases Nat.eq_zero_or_pos offset with rfl | further
      · exact Nat.le_refl _
      · exact List.pairwise_iff_getElem.mp sorted _ _ inside (by omega) (by omega)
    calc values.countP (· < values[place])
        = (values.take place).countP (· < values[place]) +
            (values.drop place).countP (· < values[place]) := by
          rw [← List.countP_append, List.take_append_drop]
      _ = (values.take place).countP (· < values[place]) := by rw [none, Nat.add_zero]
      _ ≤ place := Nat.le_trans List.countP_le_length (List.length_take_le _ _)
  · have all : (values.take (place + 1)).countP (· ≤ values[place]) = place + 1 := by
      rw [List.countP_eq_length.mpr, List.length_take, Nat.min_eq_left inside]
      intro value member
      obtain ⟨offset, bound, rfl⟩ := List.mem_iff_getElem.mp member
      rw [List.length_take] at bound
      rw [List.getElem_take, decide_eq_true_eq]
      rcases Nat.lt_or_eq_of_le (show offset ≤ place by omega) with before | rfl
      · exact List.pairwise_iff_getElem.mp sorted _ _ (by omega) inside before
      · exact Nat.le_refl _
    have part := (List.take_sublist (place + 1) values).countP_le
      (p := fun value => value ≤ values[place])
    omega

/-- No two latencies have the same rank. -/
theorem eq_of_countP (below : latencies.countP (· < latency) < rank)
    (reached : rank ≤ latencies.countP (· ≤ latency))
    (belowToo : latencies.countP (· < other) < rank)
    (reachedToo : rank ≤ latencies.countP (· ≤ other)) : latency = other := by
  have step {low high : Nat} (less : low < high) :
      latencies.countP (· ≤ low) ≤ latencies.countP (· < high) :=
    List.countP_mono_left fun value _ small => by
      rw [decide_eq_true_eq] at small ⊢
      omega
  rcases Nat.lt_trichotomy latency other with less | same | greater
  · have := step less
    omega
  · exact same
  · have := step greater
    omega

theorem ranked_eq_getElem (positive : 0 < rank) (within : rank ≤ latencies.length) :
    ∃ inside : rank - 1 < latencies.mergeSort.length,
      ranked latencies rank = latencies.mergeSort[rank - 1] := by
  have inside : rank - 1 < latencies.mergeSort.length := by
    rw [List.length_mergeSort]
    omega
  refine ⟨inside, ?_⟩
  rw [ranked, List.getD_eq_getElem?_getD, List.getElem?_eq_getElem inside, Option.getD_some]

theorem sorted_mergeSort (latencies : List Nat) :
    latencies.mergeSort.Pairwise (· ≤ ·) := by
  have sorted := @List.pairwise_mergeSort Nat (fun a b => decide (a ≤ b))
    (fun a b c first second => by simp only [decide_eq_true_eq] at *; omega)
    (fun a b => by simp only [Bool.or_eq_true, decide_eq_true_eq]; omega) latencies
  exact sorted.imp fun le => of_decide_eq_true le

theorem ranked_eq (positive : 0 < rank) (within : rank ≤ latencies.length)
    (below : latencies.countP (· < latency) < rank)
    (reached : rank ≤ latencies.countP (· ≤ latency)) : ranked latencies rank = latency := by
  obtain ⟨inside, found⟩ := ranked_eq_getElem positive within
  obtain ⟨belowToo, reachedToo⟩ := countP_around (sorted_mergeSort latencies) inside
  have same := List.mergeSort_perm latencies (fun a b => decide (a ≤ b))
  rw [same.countP_eq] at belowToo reachedToo
  rw [found]
  exact eq_of_countP (by omega) (by omega) below reached

theorem ranked_mem (positive : 0 < rank) (within : rank ≤ latencies.length) :
    ranked latencies rank ∈ latencies := by
  obtain ⟨inside, found⟩ := ranked_eq_getElem positive within
  rw [found]
  exact List.mem_mergeSort.mp (List.getElem_mem inside)

theorem ranked_mono (positive : 0 < rank) (order : rank ≤ later)
    (within : later ≤ latencies.length) : ranked latencies rank ≤ ranked latencies later := by
  obtain ⟨inside, found⟩ := ranked_eq_getElem positive (Nat.le_trans order within)
  obtain ⟨insideToo, foundToo⟩ := ranked_eq_getElem (Nat.lt_of_lt_of_le positive order) within
  rw [found, foundToo]
  rcases Nat.eq_or_lt_of_le order with rfl | before
  · exact Nat.le_refl _
  · exact List.pairwise_iff_getElem.mp (sorted_mergeSort latencies) _ _ inside insideToo (by omega)

end Ranked

namespace Quantile

variable {quantile : Quantile} {total : Nat}

theorem rank_pos (quantile : Quantile) (total : Nat) : 0 < quantile.rank total :=
  Nat.le_max_left _ _

theorem rank_le (part : quantile.num ≤ quantile.den) (some : 0 < total) :
    quantile.rank total ≤ total := by
  refine Nat.max_le.mpr ⟨some, ?_⟩
  rcases Nat.eq_zero_or_pos quantile.den with zero | positive
  · rw [zero, Nat.div_zero]
    exact Nat.zero_le _
  · have most := Nat.mul_le_mul_right total part
    have whole : quantile.num * total + quantile.den - 1 < quantile.den * (total + 1) := by
      rw [Nat.mul_succ]
      omega
    exact Nat.lt_succ_iff.mp (Nat.div_lt_of_lt_mul whole)

end Quantile

/-- The walk ends at the first position up to which the rank is reached. -/
theorem firstReaching_spec {rank : Nat} (position : Nat) {counts : List Nat} (positive : 0 < rank)
    (reached : rank ≤ counts.sum) :
    ∃ offset < counts.length, firstReaching rank position counts = position + offset ∧
      (counts.take offset).sum < rank ∧ rank ≤ (counts.take (offset + 1)).sum := by
  induction counts generalizing rank position with
  | nil =>
      rw [List.sum_nil] at reached
      omega
  | cons count counts ih =>
      rw [List.sum_cons] at reached
      by_cases here : rank ≤ count
      · exact ⟨0, Nat.succ_pos _, by simp [firstReaching, here], positive, by simpa using here⟩
      · obtain ⟨offset, inside, found, below, reached⟩ :=
          ih (position + 1) (show 0 < rank - count by omega) (by omega)
        refine ⟨offset + 1, Nat.succ_lt_succ inside, ?_, ?_, ?_⟩
        · rw [firstReaching, if_neg here, found, Nat.add_assoc, Nat.add_comm 1]
        · rw [List.take_succ_cons, List.sum_cons]
          omega
        · rw [List.take_succ_cons, List.sum_cons]
          omega

/-- The latency that a sample's bin stands for. -/
def Sample.binned (sample : Sample) : Nat :=
  binOf sample.latency

theorem Sample.binned_of_lt {sample : Sample} (small : sample.latency < binCount) :
    sample.binned = sample.latency := by
  rw [binned, binOf, dif_pos small]

theorem Sample.binned_le (sample : Sample) : sample.binned ≤ sample.latency := by
  by_cases small : sample.latency < binCount
  · exact Nat.le_of_eq (binned_of_lt small)
  · rw [binned, binOf, dif_neg small]
    change 2 ≤ sample.latency
    unfold binCount at small
    omega

namespace Content

variable {samples : List Sample}

/-- A table in which each sample counts at its place. -/
theorem getElem_ofSamples {size : Nat} {table : Content → Vector Nat size}
    (place : Sample → Fin size) (none : table 0 = Vector.replicate size 0)
    (one : ∀ sample, table (ofSample sample) = (Vector.replicate size 0).set (place sample) 1)
    (more : ∀ left right, table (left + right) = (table left).zipWith (· + ·) (table right))
    (samples : List Sample) {index : Nat} (inside : index < size) :
    (table (ofSamples samples))[index] = samples.countP fun sample => (place sample).val = index := by
  induction samples with
  | nil =>
      change (table 0)[index] = 0
      simp only [none, Vector.getElem_replicate]
  | cons sample samples ih =>
      have counted :
          (table (ofSample sample))[index] = if (place sample).val = index then 1 else 0 := by
        simp only [one, Vector.getElem_set, Vector.getElem_replicate]
      simp only [ofSamples_cons, more, Vector.getElem_zipWith, counted, ih, List.countP_cons,
        decide_eq_true_eq]
      exact Nat.add_comm _ _

theorem bins_ofSamples (samples : List Sample) {bin : Nat} (inside : bin < binCount) :
    (ofSamples samples).bins[bin] = (samples.map Sample.binned).countP (· = bin) := by
  rw [List.countP_map]
  exact getElem_ofSamples (fun sample => binOf sample.latency) rfl (fun _ => rfl) (fun _ _ => rfl)
    samples inside

/-- The samples in the first bins are those with smaller latencies. -/
theorem sum_take_bins (samples : List Sample) {bound : Nat} (inside : bound ≤ binCount) :
    ((ofSamples samples).bins.toList.take bound).sum =
      (samples.map Sample.binned).countP (· < bound) := by
  induction bound with
  | zero => simp
  | succ bin ih =>
      have next : (ofSamples samples).bins.toList[bin]? =
          some ((samples.map Sample.binned).countP (· = bin)) := by
        rw [← bins_ofSamples samples inside, Vector.getElem?_toList, Vector.getElem?_eq_getElem]
      have apart : (samples.map Sample.binned).countP (· < bin + 1) =
          (samples.map Sample.binned).countP (· < bin) +
            (samples.map Sample.binned).countP (· = bin) := by
        generalize samples.map Sample.binned = latencies
        induction latencies with
        | nil => rfl
        | cons latency latencies ih =>
            simp only [List.countP_cons, decide_eq_true_eq]
            rw [ih]
            split_ifs <;> omega
      rw [List.take_add_one, next, List.sum_append, ih (Nat.le_of_succ_le inside), apart]
      simp

theorem binned_lt_binCount (samples : List Sample) :
    ∀ latency ∈ samples.map Sample.binned, latency < binCount := by
  intro latency member
  obtain ⟨sample, _, rfl⟩ := List.mem_map.mp member
  exact (binOf sample.latency).isLt

theorem sum_bins (samples : List Sample) :
    (ofSamples samples).bins.toList.sum = samples.length := by
  have all := sum_take_bins samples (Nat.le_refl binCount)
  rw [List.take_of_length_le (by simp)] at all
  rw [all, List.countP_eq_length.mpr, List.length_map]
  exact fun latency member => decide_eq_true (binned_lt_binCount samples latency member)

/-- A quantile of the bins is the binned latency of its rank. -/
theorem bins_at (some : samples ≠ []) {quantile : Quantile}
    (part : quantile.num ≤ quantile.den) :
    (ofSamples samples).bins.at quantile =
      ranked (samples.map Sample.binned) (quantile.rank samples.length) := by
  have count : (ofSamples samples).bins.foldl (· + ·) 0 = samples.length := by
    rw [← sum_bins, List.sum_eq_foldl, ← Vector.foldl_toList]
  have positive := quantile.rank_pos samples.length
  have within := Quantile.rank_le part (List.length_pos_iff.mpr some)
  rw [Bins.at, count]
  generalize quantile.rank samples.length = rank at positive within
  obtain ⟨bin, inside, found, below, reached⟩ :=
    firstReaching_spec 0 positive (show rank ≤ (ofSamples samples).bins.toList.sum by
      rwa [sum_bins])
  rw [Vector.length_toList] at inside
  rw [sum_take_bins samples (Nat.le_of_lt inside)] at below
  rw [sum_take_bins samples inside] at reached
  rw [found, Nat.zero_add]
  refine (ranked_eq positive (by rwa [List.length_map]) below ?_).symm
  simpa only [Nat.lt_succ_iff] using reached

theorem least_le {sample : Sample} (member : sample ∈ samples) :
    (ofSamples samples).least ≤ sample.latency := by
  induction samples with
  | nil => cases member
  | cons first rest ih =>
      rw [ofSamples_cons]
      change min (min never first.latency) (ofSamples rest).least ≤ sample.latency
      rcases List.mem_cons.mp member with rfl | member
      · omega
      · have := ih member
        omega

theorem le_greatest {sample : Sample} (member : sample ∈ samples) :
    sample.latency ≤ (ofSamples samples).greatest := by
  induction samples with
  | nil => cases member
  | cons first rest ih =>
      rw [ofSamples_cons]
      change sample.latency ≤ max first.latency (ofSamples rest).greatest
      rcases List.mem_cons.mp member with rfl | member
      · omega
      · have := ih member
        omega

end Content

end StoreBench.Latency
