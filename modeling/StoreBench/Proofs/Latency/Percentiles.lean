import StoreBench.Proofs.Latency.Ranks
import StoreBench.Proofs.Latency.Tables

/-! Percentiles.

The bins of an account count the samples that it holds, so the percentiles of a summary are the
latencies of their ranks among all samples folded, each read as the bin it is counted in.  Up to
2047 a latency has a bin of its own; a larger one is counted as 2, and the percentiles with it.
-/

namespace StoreBench.Latency

/-- Each percentile is the latency of its rank: its fraction of all samples, rounded up, and at
least the first. -/
structure Summary.Ranks (summary : Summary) (latencies : List Nat) : Prop where
  p50 : summary.p50 = ranked latencies (Quantile.rank ⟨50, 100⟩ latencies.length)
  p95 : summary.p95 = ranked latencies (Quantile.rank ⟨95, 100⟩ latencies.length)
  p99 : summary.p99 = ranked latencies (Quantile.rank ⟨99, 100⟩ latencies.length)
  p999 : summary.p999 = ranked latencies (Quantile.rank ⟨999, 1000⟩ latencies.length)

theorem Summary.Ranks.ascending {summary : Summary} {latencies : List Nat}
    (ranks : summary.Ranks latencies) (some : latencies ≠ []) :
    summary.p50 ≤ summary.p95 ∧ summary.p95 ≤ summary.p99 ∧ summary.p99 ≤ summary.p999 := by
  have total := List.length_pos_iff.mpr some
  have step {low high : Quantile} (order : low.rank latencies.length ≤ high.rank latencies.length)
      (part : high.num ≤ high.den) : ranked latencies (low.rank latencies.length) ≤
        ranked latencies (high.rank latencies.length) :=
    ranked_mono (low.rank_pos _) order (Quantile.rank_le part total)
  rw [ranks.p50, ranks.p95, ranks.p99, ranks.p999]
  refine ⟨step ?_ (by decide), step ?_ (by decide), step ?_ (by decide)⟩
  all_goals
    simp only [Quantile.rank]
    omega

/-- What the percentiles of a summary say about the samples. -/
structure Summary.Ranked (summary : Summary) (samples : List Sample) : Prop where
  count : summary.count = samples.length
  binned : summary.Ranks (samples.map Sample.binned)
  ascending : summary.p50 ≤ summary.p95 ∧ summary.p95 ≤ summary.p99 ∧ summary.p99 ≤ summary.p999
  bounded : summary.p999 ≤ summary.greatest
  exact : (∀ sample ∈ samples, sample.latency < binCount) →
    summary.Ranks (samples.map Sample.latency) ∧ summary.least ≤ summary.p50

namespace Hub

variable {hub : Hub} {kind : Kind} {shown fresh : List Sample}

theorem summary?_quantiles {summary : Summary} (told : hub.summary? kind = some summary) :
    let bins := (hub.accounts.get kind).bins
    summary.p50 = bins.at ⟨50, 100⟩ ∧ summary.p95 = bins.at ⟨95, 100⟩ ∧
      summary.p99 = bins.at ⟨99, 100⟩ ∧ summary.p999 = bins.at ⟨999, 1000⟩ := by
  unfold summary? at told
  dsimp only at told
  split at told
  · cases told
  · cases told
    exact ⟨rfl, rfl, rfl, rfl⟩

theorem summary?_ranked (shows : (hub.accounts.get kind).Shows shown fresh)
    (tabulates : (hub.accounts.get kind).Tabulates (shown ++ fresh)) (some : shown ++ fresh ≠ []) :
    ∃ summary, hub.summary? kind = .some summary ∧ summary.Ranked (shown ++ fresh) := by
  rcases summary?_of shows with ⟨_, none⟩ | ⟨summary, told, _, count, least, greatest⟩
  · exact absurd none some
  refine ⟨summary, told, ?_⟩
  obtain ⟨p50, p95, p99, p999⟩ := summary?_quantiles told
  have binned : (hub.accounts.get kind).bins = (Content.ofSamples (shown ++ fresh)).bins :=
    congrArg Tables.bins tabulates
  generalize shown ++ fresh = samples at some binned count least greatest ⊢
  rw [binned] at p50 p95 p99 p999
  have ranks : summary.Ranks (samples.map Sample.binned) := by
    constructor
    all_goals rw [List.length_map]
    · exact p50.trans (Content.bins_at some (by decide))
    · exact p95.trans (Content.bins_at some (by decide))
    · exact p99.trans (Content.bins_at some (by decide))
    · exact p999.trans (Content.bins_at some (by decide))
  have total : 0 < (samples.map Sample.binned).length := by
    rw [List.length_map]
    exact List.length_pos_iff.mpr some
  have among {quantile : Quantile} (part : quantile.num ≤ quantile.den) :
      ∃ sample ∈ samples, sample.binned =
        ranked (samples.map Sample.binned) (quantile.rank (samples.map Sample.binned).length) :=
    List.mem_map.mp (ranked_mem (quantile.rank_pos _) (Quantile.rank_le part total))
  refine
    { count := count
      binned := ranks
      ascending := ranks.ascending (List.length_pos_iff.mp total)
      bounded := ?_
      exact := fun small => ?_ }
  · obtain ⟨sample, member, found⟩ := @among ⟨999, 1000⟩ (by decide)
    rw [ranks.p999, ← found, greatest]
    exact Nat.le_trans sample.binned_le (Content.le_greatest member)
  · have same : samples.map Sample.binned = samples.map Sample.latency :=
      List.map_congr_left fun sample member => Sample.binned_of_lt (small sample member)
    refine ⟨same ▸ ranks, ?_⟩
    obtain ⟨sample, member, found⟩ := @among ⟨50, 100⟩ (by decide)
    rw [ranks.p50, ← found, least, Sample.binned_of_lt (small sample member)]
    exact Content.least_le member

end Hub

namespace History

/-- However samples were recorded and folded, and however many lines were emitted on the way, the
percentiles of a summary are the binned latencies of their ranks among all samples folded; they are
those of the latencies themselves as long as none is above 2047. -/
theorem percentiles_ranked (history : History) (fits : history.Fits) (kind : Kind)
    (some : history.chronicle.given kind ≠ []) :
    ∃ summary, history.books.hub.summary? kind = .some summary ∧
      summary.Ranked (history.chronicle.given kind) := by
  obtain ⟨tells, counts⟩ := counted fits
  exact Hub.summary?_ranked (tells.hub kind) (counts.hub kind) some

/-- Two quick samples and a slow one, which two recorders fold. -/
def uneven : History :=
  ⟨1000000, 0, [.enable .set, .attach 0, .attach 0, .reset 0 .set 0, .reset 1 .set 0,
    .add 0 0 400 1, .add 1 0 5000 1, .merge 1 5000, .finish 5001, .add 0 5002 5009 1,
    .merge 0 5010]⟩

theorem percentiles_ranked_uneven :
    (uneven.Fits ∧ uneven.chronicle.given .set ≠ [] ∧
      ∃ summary, uneven.books.hub.summary? .set = some summary ∧
        summary.Ranked (uneven.chronicle.given .set)) ∧
      uneven.chronicle.given .set = [⟨0, 5000, 1⟩, ⟨0, 400, 1⟩, ⟨5002, 5009, 1⟩] := by
  have fits : uneven.Fits := by decide +kernel
  have given : uneven.chronicle.given .set = [⟨0, 5000, 1⟩, ⟨0, 400, 1⟩, ⟨5002, 5009, 1⟩] := by
    decide +kernel
  have some : uneven.chronicle.given .set ≠ [] := by
    rw [given]
    exact List.cons_ne_nil _ _
  exact ⟨⟨fits, some, percentiles_ranked uneven fits .set some⟩, given⟩

def lone : History :=
  ⟨1000000000, 0, [.enable .set, .attach 0, .reset 0 .set 0, .add 0 0 4095 1, .merge 0 4095]⟩

/-- The median of a single slow sample is not within a thousandth of its latency. -/
theorem median_misplaced : ¬ ∀ history : History, history.Fits → ∀ kind,
    let latencies := (history.chronicle.given kind).map Sample.latency
    latencies ≠ [] → ∃ summary, history.books.hub.summary? kind = some summary ∧
      let latency := ranked latencies (Quantile.rank ⟨50, 100⟩ latencies.length)
      999 * latency ≤ 1000 * summary.p50 ∧ 1000 * summary.p50 ≤ 1001 * latency := by
  intro precise
  have fits : lone.Fits := by decide +kernel
  have given : lone.chronicle.given .set = [⟨0, 4095, 1⟩] := by decide +kernel
  obtain ⟨summary, told, above, _⟩ := precise lone fits .set (by rw [given]; simp)
  obtain ⟨tells, counts⟩ := counted fits
  obtain ⟨same, toldToo, ranks⟩ := Hub.summary?_ranked (tells.hub .set) (counts.hub .set) (by
    change lone.chronicle.given .set ≠ []
    rw [given]
    exact List.cons_ne_nil _ _)
  obtain rfl := Option.some.inj (told.symm.trans toldToo)
  have median := ranks.binned.p50
  change summary.p50 = ranked ((lone.chronicle.given .set).map Sample.binned)
    (Quantile.rank ⟨50, 100⟩ ((lone.chronicle.given .set).map Sample.binned).length) at median
  rw [given] at above median
  rw [median, List.map_singleton, List.map_singleton] at above
  have reported : ranked [Sample.binned ⟨0, 4095, 1⟩] 1 = 2 :=
    ranked_eq (by decide) (by decide) (by decide) (by decide)
  have latency : ranked [Sample.latency ⟨0, 4095, 1⟩] 1 = 4095 :=
    ranked_eq (by decide) (by decide) (by decide) (by decide)
  change 999 * ranked [Sample.latency ⟨0, 4095, 1⟩] 1 ≤
    1000 * ranked [Sample.binned ⟨0, 4095, 1⟩] 1 at above
  rw [latency, reported] at above
  exact absurd above (by decide)

end History

end StoreBench.Latency
