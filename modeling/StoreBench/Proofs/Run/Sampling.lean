import StoreBench.Proofs.Run.Strain

/-! Samples of a worker.

What a worker recorded of its kind is either in the hub or owed to it.  Both together grow by the
samples taken, and the latency of a sample is the time that the calls took since its start.
-/

namespace StoreBench.Run

open StoreBench.Engine (Answer Call Exchange elapsed taken)
open StoreBench.Latency (Attendance Emission Hub Recorder Sample Tally)

variable {W : Type} {settings : Settings} {r : Reckoning settings}

namespace Shared

/-- Calls have no part in the hub and in the workers that are done, nor have these in the calls. -/
theorem answered_aside (shared : Shared) (hub : Hub) (finished : Nat) (made : List Exchange) :
    ({ shared with hub, finished } : Shared).answered made =
      { shared.answered made with hub, finished } := by
  induction made generalizing shared with
  | nil => rfl
  | cons exchange made ih => exact ih (shared.afterAnswer exchange.answer)

@[simp] theorem hub_answered (shared : Shared) (made : List Exchange) :
    (shared.answered made).hub = shared.hub := by
  induction made generalizing shared with
  | nil => rfl
  | cons exchange made ih => exact ih (shared.afterAnswer exchange.answer)

theorem answered_hub (shared : Shared) (hub : Hub) (made : List Exchange) :
    ({ shared with hub } : Shared).answered made = { shared.answered made with hub } := by
  induction made generalizing shared with
  | nil => rfl
  | cons exchange made ih => exact ih (shared.afterAnswer exchange.answer)

theorem stopped_answered (shared : Shared) (made : List Exchange) :
    (shared.answered made).stopped = (shared.stopped || made.any (·.answer.interrupted)) := by
  induction made generalizing shared with
  | nil => simp [answered]
  | cons exchange made ih =>
      refine (ih (shared.afterAnswer exchange.answer)).trans ?_
      simp [afterAnswer, Bool.or_assoc]

theorem clock_answered {shared : Shared} {made : List Exchange}
    (ahead : shared.clock + elapsed made < wordLimit) :
    (shared.answered made).clock = shared.clock + elapsed made := by
  induction made generalizing shared with
  | nil => rfl
  | cons exchange made ih =>
      rw [Engine.elapsed_cons] at ahead
      have next : (shared.afterAnswer exchange.answer).clock =
          shared.clock + exchange.answer.took := Nat.mod_eq_of_lt (by omega)
      refine (@ih (shared.afterAnswer exchange.answer) (by omega)).trans ?_
      rw [next, Engine.elapsed_cons, Nat.add_assoc]

theorem clock_answered_le (shared : Shared) (made : List Exchange) :
    (shared.answered made).clock ≤ shared.clock + elapsed made := by
  induction made generalizing shared with
  | nil => exact Nat.le_refl _
  | cons exchange made ih =>
      have next : (shared.afterAnswer exchange.answer).clock ≤
          shared.clock + exchange.answer.took := Nat.mod_le _ _
      have later := ih (shared.afterAnswer exchange.answer)
      have whole : (shared.answered (exchange :: made)).clock =
          ((shared.afterAnswer exchange.answer).answered made).clock := rfl
      rw [Engine.elapsed_cons]
      omega

end Shared

/-- The numbers of the hub are right for this worker beside some others. -/
def Desk.Tended (desk : Desk) : Prop :=
  ∃ others, Attendance desk.shared.hub (desk.worker.recorder.epoch :: others)

/-- What the hub has of a kind, and what the worker owes to it. -/
def Desk.owed (desk : Desk) (kind : Kind) : Tally :=
  (desk.shared.hub.accounts.get kind).total + desk.worker.recorder.account.unflushed

/-- The walks of the worker hand out pairs of at most so many bytes. -/
structure Desk.Within (desk : Desk) (bytes : Nat) : Prop where
  first : desk.worker.walk.pairSize ≤ bytes
  second : ∀ walk, desk.worker.second = some walk → walk.pairSize ≤ bytes

/-- A worker that takes samples of a kind, after what was said; its sums are within the toll. -/
structure Ready (r : Reckoning settings) (said : List Exchange) (kind : Kind) (desk : Desk) :
    Prop where
  recording : desk.worker.recorder.kind = some kind
  faithful : desk.worker.recorder.account.Faithful
  paired : KindSet.pairing.contains kind = true → desk.worker.second.isSome = true
  listed : kind ∈ r.kinds
  within : desk.Within r.pairSize
  tended : r.tended → desk.Tended
  recorded : desk.worker.recorder.account.total ≤ r.toll kind said
  owed : (desk.shared.hub.accounts.get kind).enabled = true →
    desk.owed kind ≤ r.base kind + r.toll kind said

/-- Some exchanges and a number of samples of a kind lead from one desk to the other. -/
structure Gains (r : Reckoning settings) (kind : Kind) (made : List Exchange) (count : Nat)
    (before after : Desk) : Prop where
  shared : ∃ hub, after.shared = { before.shared.answered made with hub }
  worker : ∃ walk second recorder,
    after.worker = { before.worker with walk, second, recorder }
  paired : after.worker.second.isSome = before.worker.second.isSome
  recording : after.worker.recorder.kind = before.worker.recorder.kind
  faithful : before.worker.recorder.account.Faithful → after.worker.recorder.account.Faithful
  within : ∀ bytes, before.Within bytes → after.Within bytes
  tended : before.Tended → after.Tended
  enabled : ∀ other, (after.shared.hub.accounts.get other).enabled =
    (before.shared.hub.accounts.get other).enabled
  others : ∀ other, other ≠ kind → (after.shared.hub.accounts.get other).total =
    (before.shared.hub.accounts.get other).total
  count : (before.shared.hub.accounts.get kind).enabled = true →
    (after.owed kind).count = (before.owed kind).count + count
  latency : (before.shared.hub.accounts.get kind).enabled = true → kind ≠ .iterate →
    before.shared.clock + elapsed made < wordLimit →
      (after.owed kind).latency = (before.owed kind).latency + elapsed made
  recorded : after.worker.recorder.account.total ≤
    before.worker.recorder.account.total + r.toll kind made
  owed : (before.shared.hub.accounts.get kind).enabled = true →
    after.owed kind ≤ before.owed kind + r.toll kind made

namespace Gains

variable {kind : Kind} {said made more : List Exchange} {count further : Nat}
  {before middle after desk : Desk}

theorem refl (r : Reckoning settings) (kind : Kind) (desk : Desk) :
    Gains r kind [] 0 desk desk where
  shared := ⟨desk.shared.hub, rfl⟩
  worker := ⟨_, _, _, rfl⟩
  paired := rfl
  recording := rfl
  faithful := id
  within _ := id
  tended := id
  enabled _ := rfl
  others _ _ := rfl
  count _ := rfl
  latency _ _ _ := rfl
  recorded := le_self_add
  owed _ := le_self_add

theorem clock (gains : Gains r kind made count before after)
    (ahead : before.shared.clock + elapsed made < wordLimit) :
    after.shared.clock = before.shared.clock + elapsed made := by
  obtain ⟨hub, shared⟩ := gains.shared
  rw [shared]
  exact Shared.clock_answered ahead

theorem trans (first : Gains r kind made count before middle)
    (second : Gains r kind more further middle after) :
    Gains r kind (made ++ more) (count + further) before after where
  shared := by
    obtain ⟨_, earlier⟩ := first.shared
    obtain ⟨hub, later⟩ := second.shared
    exact ⟨hub, by rw [later, earlier, Shared.answered_hub, Shared.answered_append]⟩
  worker := by
    obtain ⟨_, _, _, earlier⟩ := first.worker
    obtain ⟨walk, second, recorder, later⟩ := second.worker
    exact ⟨walk, second, recorder, by rw [later, earlier]⟩
  paired := second.paired.trans first.paired
  recording := second.recording.trans first.recording
  faithful := second.faithful ∘ first.faithful
  within bytes := second.within bytes ∘ first.within bytes
  tended := second.tended ∘ first.tended
  enabled other := (second.enabled other).trans (first.enabled other)
  others other different := (second.others other different).trans (first.others other different)
  count collected := by
    rw [second.count ((first.enabled kind).trans collected), first.count collected, Nat.add_assoc]
  latency collected timed ahead := by
    rw [Engine.elapsed_append] at ahead
    have passed := first.clock (by omega)
    rw [second.latency ((first.enabled kind).trans collected) timed (by omega),
      first.latency collected timed (by omega), Engine.elapsed_append, Nat.add_assoc]
  recorded := by
    refine second.recorded.trans ((add_le_add_left first.recorded _).trans ?_)
    rw [add_assoc]
    exact add_le_add_right (r.toll_append kind made more) _
  owed collected := by
    refine (second.owed ((first.enabled kind).trans collected)).trans
      ((add_le_add_left (first.owed collected) _).trans ?_)
    rw [add_assoc]
    exact add_le_add_right (r.toll_append kind made more) _

theorem ready (gains : Gains r kind made count before after) (ready : Ready r said kind before) :
    Ready r (said ++ made) kind after where
  recording := gains.recording.trans ready.recording
  faithful := gains.faithful ready.faithful
  paired needs := gains.paired.trans (ready.paired needs)
  listed := ready.listed
  within := gains.within _ ready.within
  tended watched := gains.tended (ready.tended watched)
  recorded := gains.recorded.trans
    ((add_le_add_left ready.recorded _).trans (r.toll_append kind said made))
  owed collected := by
    have before := (gains.enabled kind).symm.trans collected
    refine (gains.owed before).trans ((add_le_add_left (ready.owed before) _).trans ?_)
    rw [add_assoc]
    exact add_le_add_right (r.toll_append kind said made) _

theorem stays (gains : Gains r kind [] count before after) (ready : Ready r said kind before) :
    Ready r said kind after := by
  have later := gains.ready ready
  rwa [List.append_nil] at later

theorem moved (r : Reckoning settings) (kind : Kind) {walk : Keys.Walk}
    {second : Option Keys.Walk} (same : walk.pairSize = desk.worker.walk.pairSize)
    (sameToo : second.map Keys.Walk.pairSize = desk.worker.second.map Keys.Walk.pairSize) :
    Gains r kind [] 0 desk { desk with worker := { desk.worker with walk, second } } :=
  { Gains.refl r kind desk with
    worker := ⟨walk, second, _, rfl⟩
    paired := by
      have defined := congrArg Option.isSome sameToo
      rwa [Option.isSome_map, Option.isSome_map] at defined
    within := fun bytes within => by
      refine ⟨same.le.trans within.first, ?_⟩
      rintro next rfl
      obtain ⟨walk, found, size⟩ := Option.map_eq_some_iff.mp sameToo.symm
      exact size.symm.le.trans (within.second walk found) }

theorem asked (r : Reckoning settings) (made : List Exchange) (desk : Desk) :
    Gains r .iterate made 0 desk (desk.answered made) where
  shared := ⟨desk.shared.hub, by
    change desk.shared.answered made = _
    rw [← Shared.answered_hub]⟩
  worker := ⟨_, _, _, rfl⟩
  paired := rfl
  recording := rfl
  faithful := id
  within _ within := ⟨within.first, within.second⟩
  tended := by simp [Desk.Tended, Desk.answered]
  enabled _ := by simp [Desk.answered]
  others _ _ := by simp [Desk.answered]
  count _ := by simp [Desk.owed, Desk.answered]
  latency _ timed := absurd rfl timed
  recorded := le_self_add
  owed _ := by
    simp only [Desk.owed, Desk.answered, Shared.hub_answered]
    exact le_self_add

end Gains

section Steps

variable {stage : Stage (StateM W)} {kind : Kind} {desk : Desk}

/-- The desk after an operation of its recorder. -/
def Desk.recorded (desk : Desk)
    (operation : Recorder → Hub → Nat → Except Panic (Option Emission) × Recorder × Hub) : Desk :=
  let after := operation desk.worker.recorder desk.shared.hub desk.shared.clock
  { shared := { desk.shared with hub := after.2.2 }
    worker := { desk.worker with recorder := after.2.1 } }

theorem withRecorder_yields {excused : List Exchange → Panic → Prop}
    {operation : Recorder → Hub → Nat → Except Panic (Option Emission) × Recorder × Hub}
    (sound : ∀ cause, (operation desk.worker.recorder desk.shared.hub desk.shared.clock).1 =
      .error cause → excused [] cause) :
    Yields stage.Heard excused (withRecorder stage operation) desk
      fun made outcome after => made = [] ∧ outcome = .ok () ∧ after = desk.recorded operation ∧
        ∃ emission,
          (operation desk.worker.recorder desk.shared.hub desk.shared.clock).1 = .ok emission := by
  unfold withRecorder
  apply Yields.reads
  unfold Desk.recorded
  generalize operation desk.worker.recorder desk.shared.hub desk.shared.clock = acted at sound
  obtain ⟨result, recorder, hub⟩ := acted
  apply Yields.bind
  apply Yields.set
  rcases result with cause | _ | emission
  · exact Yields.panics (sound cause rfl)
  · exact Yields.pure ⟨rfl, rfl, rfl, _, rfl⟩
  · exact Yields.lift (fun record heard => heard.publish emission)
      fun _ => ⟨rfl, rfl, rfl, _, rfl⟩

theorem Gains.carried {made : List Exchange} {gain : Tally} {hub : Hub} {told : Recorder}
    (recording : desk.worker.recorder.kind = some kind) (split : desk.worker.recorder.account.Split)
    (carries : Recorder.Carries desk.shared.hub desk.worker.recorder gain hub told)
    (tended : desk.Tended → ∃ others, Attendance hub (told.epoch :: others))
    (timed : kind ≠ .iterate → desk.shared.clock + elapsed made < wordLimit →
      gain.latency = elapsed made) (charged : gain ≤ r.toll kind made) :
    Gains r kind made gain.count desk
      ⟨{ desk.shared.answered made with hub }, { desk.worker with recorder := told }⟩ where
  shared := ⟨hub, rfl⟩
  worker := ⟨_, _, told, rfl⟩
  paired := rfl
  recording := carries.kind
  faithful := carries.faithful
  within _ within := ⟨within.first, within.second⟩
  tended := tended
  enabled := carries.enabled
  others other different := carries.others other fun same =>
    different (Option.some.inj (same.symm.trans recording))
  count collected := congrArg Tally.count (carries.owed kind recording collected split)
  latency collected uncounted ahead := by
    rw [← timed uncounted ahead]
    exact congrArg Tally.latency (carries.owed kind recording collected split)
  recorded := carries.account.le.trans (add_le_add_right charged _)
  owed collected :=
    (carries.owed kind recording collected split).le.trans (add_le_add_right charged _)

theorem Ready.strain {said made : List Exchange} {gain : Tally} (ready : Ready r said kind desk)
    (charged : gain ≤ r.toll kind made)
    (outgrows : Recorder.Outgrows desk.shared.hub desk.worker.recorder gain) :
    Strain r (said ++ made) .overflow := by
  refine .sums ready.listed fun fits => ?_
  rcases outgrows with outgrown | ⟨other, recording, collected, outgrown⟩
  · refine outgrown (fits.mono ?_)
    exact ((add_le_add ready.recorded charged).trans (r.toll_append kind said made)).trans
      le_add_self
  · obtain rfl := Option.some.inj (ready.recording.symm.trans recording)
    refine outgrown (fits.mono ((add_le_add (ready.owed collected) charged).trans ?_))
    rw [add_assoc]
    exact add_le_add_right (r.toll_append _ said made) _

/-- The sample of some calls is taken after the last of them, and it is among those that they are
charged with. -/
theorem record_yields {said made : List Exchange} {volume : Nat} (ready : Ready r said kind desk)
    (covers : r.Covers kind made volume) :
    Yields stage.Heard (since (since (Strain r) said) made)
      (record stage desk.shared.clock volume) (desk.answered made)
      fun more outcome after =>
        more = [] ∧ outcome = .ok () ∧ Gains r kind made 1 desk after := by
  have hub : (desk.answered made).shared.hub = desk.shared.hub := Shared.hub_answered ..
  have short : (desk.answered made).shared.clock - desk.shared.clock ≤ elapsed made :=
    Nat.sub_le_of_le_add (by
      rw [Nat.add_comm]
      exact desk.shared.clock_answered_le made)
  have charged := covers.sample_le short
  have strained {cause : Panic} (strain : Strain r (said ++ made) cause) :
      since (since (Strain r) said) made [] cause := by
    rw [since_append]
    exact strain.append []
  unfold record
  split
  · next huge =>
    refine Yields.bind (Yields.panics (strained (.sums ready.listed fun fits => ?_)))
    have sum := fits.mono ((charged.trans (le_add_self.trans (r.toll_append kind said made))).trans
      le_add_self)
    exact absurd sum.2.2.2 (Nat.not_lt.mpr huge)
  · apply (withRecorder_yields _).mono
    · rintro more outcome after ⟨rfl, rfl, rfl, emission, adds⟩
      refine ⟨rfl, rfl, ?_⟩
      unfold Desk.recorded
      rw [hub] at adds ⊢
      have carries := @Recorder.add_carries desk.shared.hub desk.worker.recorder
        ⟨desk.shared.clock, (desk.answered made).shared.clock, volume⟩ emission
        ready.faithful.split adds
      refine Gains.carried ready.recording ready.faithful.split carries ?_ ?_ charged
      · rintro ⟨others, attendance⟩
        exact ⟨others, (Recorder.add_attended _ _ _ attendance).attendance⟩
      · intro _ ahead
        change (desk.shared.answered made).clock - desk.shared.clock = elapsed made
        rw [Shared.clock_answered ahead, Nat.add_sub_cancel_left]
    · intro cause fails
      rw [hub] at fails
      apply strained
      rcases Recorder.add_error fails with rfl | rfl
      · exact ready.strain charged (@Recorder.add_overflow desk.shared.hub desk.worker.recorder
          ⟨desk.shared.clock, (desk.answered made).shared.clock, volume⟩ ready.faithful.split fails)
      · refine .overcounted fun watched => ?_
        obtain ⟨others, attendance⟩ := ready.tended watched
        cases (Recorder.add_attended _ _ _ attendance).sound _ fails

end Steps

end StoreBench.Run
