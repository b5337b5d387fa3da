import Mathlib.Algebra.Group.Action.Defs
import Mathlib.Algebra.Order.BigOperators.Group.List
import StoreBench.Proofs.Run.Agreement

/-! What a worker that made all its passes says.

Each pass has the operations of every kind, in as many brackets as the kind needs for the share of
the worker, so that the samples of the passes do not depend on the answers; only a cursor may come
to its end before.
-/

namespace StoreBench

theorem batchesFor_zero {length : Nat} (positive : 0 < length) : batchesFor length 0 = 0 := by
  unfold batchesFor
  rw [Nat.zero_add]
  exact Nat.div_eq_of_lt (by omega)

namespace Engine

variable {made more : List Exchange} {kind : Kind}

theorem taken_flatten (kind : Kind) (logs : List (List Exchange)) :
    taken kind logs.flatten = (logs.map (taken kind)).sum := by
  induction logs with
  | nil => exact taken_nil kind
  | cons made logs ih => rw [List.flatten_cons, taken_append, ih, List.map_cons, List.sum_cons]

theorem taken_aside (kind : Kind) (apart : ∀ exchange ∈ made, exchange.aside = true) :
    taken kind made = 0 := by
  unfold taken
  split
  · rw [List.countP_eq_zero]
    intro exchange member
    simp [Exchange.isRecord_aside (apart exchange member)]
  · rw [List.countP_eq_zero]
    intro exchange member
    simp [Exchange.begins_aside kind (apart exchange member)]

end Engine

namespace Run

open StoreBench.Engine (Exchange taken)

variable {settings : Settings} {context : Nat}

section Kinds

variable {kind : Kind} {left used share : Nat} {made : List Exchange}
  {brackets : List (List Exchange)} {kinds : List Kind} {segments : List Segment}
  {rounds : List (List Segment)}

/-- A bracket is a sample of those that a share is charged. -/
theorem Bracket.charged (bracket : Bracket settings context (left + 1) kind made used)
    (counted : kind ≠ .iterate) (batches : kind = .batch → 0 < settings.batchLength) :
    settings.charge kind (left + 1) = settings.charge kind (left + 1 - used) + 1 := by
  have single (other : kind ≠ .batch) :
      settings.charge kind (left + 1) = settings.charge kind (left + 1 - 1) + 1 := by
    simp [Settings.charge, other]
  cases bracket with
  | refused point refuses => exact single fun same => by rw [same] at point; cases point
  | point point opens => exact single fun same => by rw [same] at point; cases point
  | crud pairs said => exact single (by simp)
  | batch pairs filled said =>
      rw [Settings.charge, Settings.charge, if_pos rfl, if_pos rfl, filled]
      exact Scene.batchesFor_succ (batches rfl) left.succ_pos
  | unopened refuses => exact absurd rfl counted
  | spent opens taken all => exact absurd rfl counted
  | exhausted opens taken few stops => exact absurd rfl counted
  | lost opens taken few broken unknown => exact absurd rfl counted

theorem KindRun.charged (run : KindRun settings context kind left brackets true)
    (counted : kind ≠ .iterate) (batches : kind = .batch → 0 < settings.batchLength) :
    (brackets.map (samples kind)).sum = settings.charge kind left := by
  generalize all : true = whole at run
  induction run with
  | complete =>
      unfold Settings.charge
      split
      · next batch => exact (batchesFor_zero (batches batch)).symm
      · rfl
  | broken bracket unclean => cases all
  | step bracket clean rest ih =>
      rw [List.map_cons, List.sum_cons, ih all, bracket.charged counted batches, samples,
        if_neg counted, Nat.add_comm]

/-- A cursor comes to no more records than it has steps. -/
theorem Bracket.records_le (bracket : Bracket settings context left .iterate made used) :
    made.countP Exchange.isRecord ≤ left ∧ used = left := by
  have few {records : List Exchange} (small : records.length ≤ left) :
      records.countP Exchange.isRecord ≤ left :=
    List.countP_le_length.trans small
  cases bracket with
  | refused point refuses => cases point
  | point point opens => cases point
  | unopened refuses => exact ⟨by simp [Exchange.isRecord], rfl⟩
  | spent opens taken all =>
      refine ⟨?_, rfl⟩
      simpa [Exchange.isRecord] using few all.le
  | exhausted opens taken some stops =>
      refine ⟨?_, rfl⟩
      simpa [Exchange.isRecord, stops] using few some.le
  | lost opens taken some broken unknown =>
      refine ⟨?_, rfl⟩
      simpa [Exchange.isRecord, broken] using few some.le

theorem KindRun.records_le (run : KindRun settings context .iterate left brackets true) :
    (brackets.map (samples .iterate)).sum ≤ left := by
  cases run with
  | complete => exact le_rfl
  | step bracket clean rest =>
      obtain ⟨few, rfl⟩ := bracket.records_le
      rw [Nat.sub_self] at rest
      cases rest
      simpa [samples] using few

theorem PassRun.none_of {verdict : Verdict}
    (run : PassRun settings context share kinds segments verdict) (absent : kind ∉ kinds) :
    Segment.total kind (samples kind) segments = 0 := by
  induction run with
  | complete => rfl
  | halted => rfl
  | failed run => exact Segment.total_other (List.ne_of_not_mem_cons absent) _ _
  | step run rest ih =>
      rw [Segment.total_append, Segment.total_other (List.ne_of_not_mem_cons absent),
        ih (List.not_mem_of_not_mem_cons absent)]

/-- What a whole pass has of a kind is one run of it. -/
theorem PassRun.run_of (run : PassRun settings context share kinds segments .whole)
    (distinct : kinds.Nodup) (among : kind ∈ kinds) :
    ∃ brackets, KindRun settings context kind share brackets true ∧
      Segment.total kind (samples kind) segments = (brackets.map (samples kind)).sum := by
  generalize all : Verdict.whole = verdict at run
  induction run with
  | complete => cases among
  | halted => cases all
  | failed run => cases all
  | @step first kinds brackets segments verdict run rest ih =>
      obtain ⟨absent, distinct⟩ := List.nodup_cons.mp distinct
      rw [Segment.total_append]
      rcases List.mem_cons.mp among with rfl | among
      · refine ⟨brackets, run, ?_⟩
        rw [Segment.total_self, rest.none_of absent, Nat.add_zero]
      · obtain ⟨brackets, run, sum⟩ := ih distinct among all
        refine ⟨brackets, run, ?_⟩
        have different : kind ≠ first := fun same => absent (same ▸ among)
        rw [Segment.total_other different, Nat.zero_add, sum]

/-- Without more to do than the passes, whole rounds are exactly these. -/
theorem Rounds.whole {made : Nat} (run : Rounds settings context kinds share made rounds .whole)
    (once : settings.continuous = false) (early : made ≤ settings.passes) :
    made + rounds.length = settings.passes ∧
      ∀ round ∈ rounds, PassRun settings context share kinds round .whole := by
  have more {made : Nat} (wanted : made < settings.passes ∨ settings.continuous = true) :
      made < settings.passes := by
    simpa [once] using wanted
  generalize all : Verdict.whole = verdict at run
  induction run with
  | complete enough => exact ⟨Nat.le_antisymm early enough, by simp⟩
  | broken wanted round short => exact absurd all.symm short
  | halted wanted round => cases all
  | step wanted round rest ih =>
      obtain ⟨length, others⟩ := ih (more wanted) all
      cases all
      refine ⟨by rw [List.length_cons]; omega, ?_⟩
      simpa using ⟨round, others⟩

theorem total_flatten (kind : Kind) (rounds : List (List Segment)) :
    Segment.total kind (samples kind) rounds.flatten =
      (rounds.map (Segment.total kind (samples kind))).sum := by
  induction rounds with
  | nil => rfl
  | cons segments rounds ih =>
      rw [List.flatten_cons, Segment.total_append, ih, List.map_cons, List.sum_cons]

end Kinds

/-- A worker with these kinds and this share made all its passes, and no more. -/
def Completed (settings : Settings) (context : Nat) (kinds : KindSet) (share : Nat)
    (made : List Exchange) : Prop :=
  ∃ rounds, Conversation settings context kinds.toList share rounds made .whole ∧
    rounds.length = settings.passes ∧
    ∀ round ∈ rounds, PassRun settings context share kinds.toList round .whole

namespace Completed

variable {kinds : KindSet} {share : Nat} {made : List Exchange} {kind : Kind}

theorem taken_sum (completed : Completed settings context kinds share made) (kind : Kind) :
    ∃ counts : List Nat, taken kind made = counts.sum ∧ counts.length = settings.passes ∧
      ∀ count ∈ counts, ∃ segments, PassRun settings context share kinds.toList segments .whole ∧
        count = Segment.total kind (samples kind) segments := by
  obtain ⟨rounds, said, length, passes⟩ := completed
  refine ⟨rounds.map (Segment.total kind (samples kind)), ?_, ?_, ?_⟩
  · rw [← total_flatten]
    unfold taken
    split
    · next cursor =>
      subst cursor
      exact said.records
    · next counted => exact said.begins counted
  · rw [List.length_map, length]
  · intro count member
    obtain ⟨segments, among, rfl⟩ := List.mem_map.mp member
    exact ⟨segments, passes segments among, rfl⟩

theorem taken_eq (completed : Completed settings context kinds share made)
    (mine : kinds.contains kind = true) (counted : kind ≠ .iterate)
    (batches : kind = .batch → 0 < settings.batchLength) :
    taken kind made = settings.passes * settings.charge kind share := by
  obtain ⟨counts, same, length, each⟩ := completed.taken_sum kind
  rw [same, ← length, ← smul_eq_mul]
  apply List.sum_eq_card_nsmul
  intro count member
  obtain ⟨segments, pass, rfl⟩ := each count member
  obtain ⟨brackets, run, sum⟩ :=
    pass.run_of (KindSet.nodup_toList kinds) ((KindSet.mem_toList kinds kind).mpr mine)
  rw [sum, run.charged counted batches]

theorem taken_le (completed : Completed settings context kinds share made)
    (mine : kinds.contains .iterate = true) :
    taken .iterate made ≤ settings.passes * share := by
  obtain ⟨counts, same, length, each⟩ := completed.taken_sum .iterate
  rw [same, ← length, ← smul_eq_mul]
  apply List.sum_le_card_nsmul
  intro count member
  obtain ⟨segments, pass, rfl⟩ := each count member
  obtain ⟨brackets, run, sum⟩ :=
    pass.run_of (KindSet.nodup_toList kinds) ((KindSet.mem_toList kinds .iterate).mpr mine)
  rw [sum]
  exact run.records_le

theorem taken_none (completed : Completed settings context kinds share made)
    (other : kinds.contains kind = false) : taken kind made = 0 := by
  obtain ⟨counts, same, length, each⟩ := completed.taken_sum kind
  rw [same]
  apply List.sum_eq_zero
  intro count member
  obtain ⟨segments, pass, rfl⟩ := each count member
  apply pass.none_of
  rw [KindSet.mem_toList, other]
  simp

end Completed

end Run

end StoreBench
