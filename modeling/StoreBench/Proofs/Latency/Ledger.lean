import Mathlib.Algebra.Group.Pi.Basic
import StoreBench.Proofs.Latency.Conservation

/-! The books while one worker has its turn.

The recorders of a hub stand in any order; the one whose turn it is stands first.  Each of its
operations succeeds as long as the sums fit, keeps the books, and leaves the other recorders alone.
-/

namespace StoreBench.Latency

namespace Recorder

variable {recorder : Recorder} {hub : Hub}

theorem foldInto_kind (kind : Kind) (now : Nat) :
    (recorder.foldInto hub kind now).2.1.kind = recorder.kind := by
  unfold foldInto
  split <;> rfl

theorem add_kind (start now volume : Nat) :
    (recorder.add hub start now volume).2.1.kind = recorder.kind := by
  unfold add
  split
  · rfl
  · rcases chosen : recorder.kind with _ | kind
    · rfl
    · dsimp only
      split
      · rfl
      · exact foldInto_kind kind now

theorem merge_settled {kind : Kind} {now : Nat} {emission : Option Emission}
    (of : recorder.kind = some kind) (folds : (recorder.merge hub now).1 = .ok emission) :
    (recorder.merge hub now).2.1.account.pending = false := by
  unfold merge at folds ⊢
  rw [of] at folds ⊢
  dsimp only at folds ⊢
  by_cases pending : recorder.account.pending = true
  · rw [if_pos pending] at folds ⊢
    unfold foldInto at folds ⊢
    split at folds
    · cases folds
    · simp [Account.pending, Account.roll]
  · rw [if_neg pending]
    exact Bool.eq_false_iff.mpr pending

end Recorder

/-- The kinds that are collected stay so. -/
def Hub.Collecting (hub next : Hub) : Prop :=
  ∀ kind, (hub.accounts.get kind).enabled = true → (next.accounts.get kind).enabled = true

theorem Gauge.held_perm {M : Type} [AddCommMonoid M] (gauge : Gauge M)
    {left right : List Recorder} (same : left.Perm right) (kind : Kind) :
    gauge.held left kind = gauge.held right kind :=
  ((same.filter _).map _).sum_eq

namespace Books

variable {log : List (Option Kind × Sample)} {hub : Hub} {recorder : Recorder}
  {recorders others : List Recorder}

theorem perm (books : Books log ⟨hub, recorders⟩) (same : recorders.Perm others) :
    Books log ⟨hub, others⟩ where
  attendance := books.attendance.perm (same.map Recorder.epoch)
  split recorder member := books.split recorder (same.mem_iff.mpr member)
  session recorder member := books.session recorder (same.mem_iff.mpr member)
  backed recorder member := books.backed recorder (same.mem_iff.mpr member)
  tame := books.tame
  balanced :=
    { balance := fun kind => by
        rw [← books.balanced.balance kind, Gauge.held_perm _ same]
      settled := fun recorder member =>
        books.balanced.settled recorder (same.mem_iff.mpr member)
      closed := books.balanced.closed }

theorem act (books : Books log ⟨hub, recorders⟩) {action : Action}
    (careful : Ensemble.Careful ⟨hub, recorders⟩ action)
    (fits : Fitting (log ++ Ensemble.logged ⟨hub, recorders⟩ action)) :
    (∃ answer, (Ensemble.step ⟨hub, recorders⟩ action).1 = .ok answer) ∧
      Books (log ++ Ensemble.logged ⟨hub, recorders⟩ action)
        (Ensemble.step ⟨hub, recorders⟩ action).2 ∧
      hub.Collecting (Ensemble.step ⟨hub, recorders⟩ action).2.hub := by
  obtain ⟨succeeds, next, effect⟩ := books.step careful (Gauge.content_admits _ action) fits
  exact ⟨succeeds, next, fun _ enabled => effect.enabled enabled⟩

theorem actSilently (books : Books log ⟨hub, recorders⟩) (fits : Fitting log) {action : Action}
    (careful : Ensemble.Careful ⟨hub, recorders⟩ action)
    (silent : Ensemble.logged ⟨hub, recorders⟩ action = []) :
    (∃ answer, (Ensemble.step ⟨hub, recorders⟩ action).1 = .ok answer) ∧
      Books log (Ensemble.step ⟨hub, recorders⟩ action).2 ∧
      hub.Collecting (Ensemble.step ⟨hub, recorders⟩ action).2.hub := by
  have acts := books.act careful (by rw [silent, List.append_nil]; exact fits)
  rw [silent, List.append_nil] at acts
  exact acts

theorem ok_of_line {result : Except Panic (Option Emission)} {answer : Answer}
    (succeeds : result.map Answer.line = .ok answer) : ∃ emission, result = .ok emission := by
  cases result with
  | error panic => cases succeeds
  | ok emission => exact ⟨emission, rfl⟩

theorem add (books : Books log ⟨hub, recorder :: others⟩) {kind : Kind}
    (of : recorder.kind = some kind) (enabled : (hub.accounts.get kind).enabled = true)
    {start now volume : Nat} (fits : Fitting (log ++ [(some kind, ⟨start, now, volume⟩)])) :
    (∃ emission, (recorder.add hub start now volume).1 = .ok emission) ∧
      Books (log ++ [(some kind, ⟨start, now, volume⟩)])
        ⟨(recorder.add hub start now volume).2.2,
          (recorder.add hub start now volume).2.1 :: others⟩ ∧
      hub.Collecting (recorder.add hub start now volume).2.2 := by
  have entry : Ensemble.logged ⟨hub, recorder :: others⟩ (.add 0 start now volume) =
      [(some kind, ⟨start, now, volume⟩)] := by
    rw [← of]
    rfl
  obtain ⟨⟨answer, succeeds⟩, next, collecting⟩ := @act log hub (recorder :: others) books
    (.add 0 start now volume) (by
      intro one same other member
      obtain rfl : recorder = one := Option.some.inj same
      obtain rfl : kind = other := Option.some.inj (of.symm.trans member)
      exact enabled) (by rw [entry]; exact fits)
  rw [entry] at next
  exact ⟨ok_of_line succeeds, next, collecting⟩

theorem merge (books : Books log ⟨hub, recorder :: others⟩) (fits : Fitting log) (now : Nat) :
    (∃ emission, (recorder.merge hub now).1 = .ok emission) ∧
      Books log ⟨(recorder.merge hub now).2.2, (recorder.merge hub now).2.1 :: others⟩ ∧
      hub.Collecting (recorder.merge hub now).2.2 := by
  obtain ⟨⟨_, succeeds⟩, next, collecting⟩ :=
    @actSilently log hub (recorder :: others) books fits (.merge 0 now) trivial rfl
  exact ⟨ok_of_line succeeds, next, collecting⟩

theorem reset (books : Books log ⟨hub, recorder :: others⟩) (fits : Fitting log)
    (settled : recorder.account.pending = false) (kind : Kind) (now : Nat) :
    Books log ⟨hub, recorder.reset kind now :: others⟩ := by
  obtain ⟨_, next, _⟩ :=
    @actSilently log hub (recorder :: others) books fits (.reset 0 kind now) (by
      intro one same
      obtain rfl : recorder = one := Option.some.inj same
      exact settled) rfl
  exact next

theorem drop (books : Books log ⟨hub, recorder :: others⟩) (fits : Fitting log)
    (settled : recorder.account.pending = false) (now : Nat) :
    (∃ emission, (recorder.drop hub now).1 = .ok emission) ∧
      Books log ⟨(recorder.drop hub now).2, others⟩ ∧
      hub.Collecting (recorder.drop hub now).2 := by
  obtain ⟨⟨_, succeeds⟩, next, collecting⟩ :=
    @actSilently log hub (recorder :: others) books fits (.drop 0 now) (by
      intro one same
      obtain rfl : recorder = one := Option.some.inj same
      exact settled) rfl
  exact ⟨ok_of_line succeeds, next, collecting⟩

theorem attach (books : Books log ⟨hub, recorders⟩) (fits : Fitting log) (now : Nat) :
    Books log ⟨(Recorder.new hub now).2, recorders ++ [(Recorder.new hub now).1]⟩ ∧
      hub.Collecting (Recorder.new hub now).2 :=
  (@actSilently log hub recorders books fits (.attach now) trivial rfl).2

theorem mirror (books : Books log ⟨hub, recorders⟩) (fits : Fitting log) (writer : Writer) :
    Books log ⟨hub.mirror writer, recorders⟩ ∧ hub.Collecting (hub.mirror writer) :=
  (@actSilently log hub recorders books fits (.mirror writer) trivial rfl).2

theorem enable (books : Books log ⟨hub, recorders⟩) (fits : Fitting log) (kind : Kind) :
    Books log ⟨hub.enable kind, recorders⟩ ∧ hub.Collecting (hub.enable kind) :=
  (@actSilently log hub recorders books fits (.enable kind) trivial rfl).2

end Books

/-- The log holds samples of this volume for each kind, and the quota has room for `rest` more.  The
samples of a kind, with one that is still running, took no more than the time that passed. -/
structure Paced (volumes quota rest : Kind → Nat) (running time : Nat)
    (log : List (Option Kind × Sample)) : Prop where
  assigned : samplesOf none log = []
  within : ∀ kind, (samplesOf (some kind) log).length + rest kind ≤ quota kind
  timely : ∀ kind,
    (Content.ofSamples (samplesOf (some kind) log)).tally.latency + running ≤ time
  volume : ∀ kind, ∀ sample ∈ samplesOf (some kind) log, sample.volume = volumes kind

namespace Paced

variable {volumes quota rest : Kind → Nat} {running time : Nat}
  {log : List (Option Kind × Sample)}

theorem start (volumes quota : Kind → Nat) (time : Nat) :
    Paced volumes quota quota 0 time [] where
  assigned := rfl
  within kind := Nat.le_of_eq (Nat.zero_add _)
  timely kind := Nat.zero_le time
  volume _ _ member := by cases member

theorem relax (paced : Paced volumes quota rest running time log) {less : Kind → Nat}
    (fewer : less ≤ rest) : Paced volumes quota less running time log :=
  { paced with
    within := fun kind => Nat.le_trans (Nat.add_le_add_left (fewer kind) _) (paced.within kind) }

/-- Time passes, for the sample that is running at most. -/
theorem pass (paced : Paced volumes quota rest running time log) {took later : Nat}
    (passes : later ≤ running + took) : Paced volumes quota rest later (time + took) log :=
  { paced with
    timely := fun kind => by
      have before := paced.timely kind
      omega }

theorem tally_of_volume {samples : List Sample} {volume : Nat}
    (charged : ∀ sample ∈ samples, sample.volume = volume) :
    (Content.ofSamples samples).tally.count = samples.length ∧
      (Content.ofSamples samples).tally.squares ≤
        (Content.ofSamples samples).tally.latency * (Content.ofSamples samples).tally.latency ∧
      (Content.ofSamples samples).tally.volume = samples.length * volume := by
  induction samples with
  | nil => simp [Content.ofSamples]
  | cons sample samples ih =>
      obtain ⟨count, squares, bytes⟩ := ih
        fun other member => charged other (List.mem_cons_of_mem _ member)
      have moved := charged sample List.mem_cons_self
      rw [Content.ofSamples_cons, Content.tally_add]
      simp only [Content.ofSample, Tally.count_add, Tally.latency_add, Tally.squares_add,
        Tally.volume_add, Tally.ofSample, List.length_cons, Nat.succ_mul]
      refine ⟨by omega, ?_, by omega⟩
      generalize (Content.ofSamples samples).tally.latency = total at squares ⊢
      calc sample.latency * sample.latency + (Content.ofSamples samples).tally.squares
          ≤ sample.latency * sample.latency + total * total := Nat.add_le_add_left squares _
        _ ≤ (sample.latency + total) * (sample.latency + total) := by
            rw [Nat.mul_add, Nat.add_mul, Nat.add_mul]
            omega

/-- A quota whose counts and volumes fit makes every log within it fit, if it takes no more time
than 64 bits count. -/
theorem fitting (paced : Paced volumes quota rest running time log) (timely : time < wordLimit)
    (fits : ∀ kind, quota kind < wordLimit ∧ quota kind * volumes kind < wordLimit) :
    Fitting log := by
  intro kind
  rcases kind with _ | kind
  · rw [paced.assigned]
    decide
  · obtain ⟨count, squares, volume⟩ := tally_of_volume (paced.volume kind)
    obtain ⟨countFits, volumeFits⟩ := fits kind
    have few := Nat.le_trans (Nat.le_add_right _ _) (paced.within kind)
    have byVolume := Nat.mul_le_mul_right (volumes kind) few
    have short : (Content.ofSamples (samplesOf (some kind) log)).tally.latency ≤ wordLimit - 1 := by
      have took := paced.timely kind
      omega
    have square := Nat.mul_le_mul short short
    unfold Tally.Fits
    unfold wordLimit at *
    exact ⟨by omega, by omega, by omega, by omega⟩

theorem record {kind : Kind} {left : Nat} {sample : Sample}
    (paced : Paced volumes quota (rest + Pi.single kind (left + 1)) sample.latency time log)
    (volume : sample.volume = volumes kind) :
    Paced volumes quota (rest + Pi.single kind left) 0 time (log ++ [(some kind, sample)]) := by
  have own : samplesOf (some kind) [(some kind, sample)] = [sample] := samplesOf_self _ [sample]
  have others (other : Kind) (different : other ≠ kind) :
      samplesOf (some other) [(some kind, sample)] = [] :=
    samplesOf_other (fun same => different (Option.some.inj same).symm) [sample]
  refine
    { assigned := ?_
      within := ?_
      timely := ?_
      volume := ?_ }
  · rw [samplesOf_append, paced.assigned]
    exact samplesOf_other (by simp) [sample]
  · intro other
    have before := paced.within other
    rw [samplesOf_append]
    by_cases same : other = kind
    · subst same
      simp only [Pi.add_apply, Pi.single_eq_same] at before ⊢
      rw [own, List.length_append, List.length_singleton]
      omega
    · simp only [Pi.add_apply, Pi.single_eq_of_ne same] at before ⊢
      rw [others other same, List.append_nil]
      exact before
  · intro other
    have before := paced.timely other
    rw [samplesOf_append, Content.ofSamples_append, Content.tally_add, Tally.latency_add]
    by_cases same : other = kind
    · subst same
      rw [own, Content.tally_ofSamples_singleton]
      exact before
    · rw [others other same]
      exact Nat.le_trans (Nat.add_le_add_left (Nat.zero_le _) _) before
  · intro other one member
    rw [samplesOf_append] at member
    rcases List.mem_append.mp member with member | member
    · exact paced.volume other one member
    · by_cases same : other = kind
      · subst same
        rw [own, List.mem_singleton] at member
        rw [member]
        exact volume
      · rw [others other same] at member
        cases member

end Paced

end StoreBench.Latency
