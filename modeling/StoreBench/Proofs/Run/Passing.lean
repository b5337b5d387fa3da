import StoreBench.Proofs.Run.Layout
import StoreBench.Proofs.Run.Sweep

/-! What a worker says in all its passes.

Between two kinds nothing is owed to the hub: what a kind recorded is folded before the next one
starts, also if the kind failed.
-/

namespace StoreBench.Run

open StoreBench.Engine (Answer Call Exchange elapsed)
open StoreBench.Latency (Attendance Recorder Tally)

variable {W : Type} {stage : Stage (StateM W)} {settings : Settings} {r : Reckoning settings}
  {context : Nat} {kind : Kind} {desk : Desk} {said : List Exchange}

namespace Segment

/-- A sum over the brackets of a kind. -/
def total (kind : Kind) (weight : List Exchange → Nat) (segments : List Segment) : Nat :=
  ((segments.filter (·.kind = kind)).map fun segment => weight segment.made).sum

variable {weight : List Exchange → Nat}

@[simp] theorem total_nil (kind : Kind) (weight : List Exchange → Nat) :
    total kind weight [] = 0 := rfl

@[simp] theorem total_append (kind : Kind) (weight : List Exchange → Nat)
    (segments more : List Segment) :
    total kind weight (segments ++ more) = total kind weight segments + total kind weight more := by
  simp [total]

theorem total_self (kind : Kind) (weight : List Exchange → Nat) (brackets : List (List Exchange)) :
    total kind weight (brackets.map (Segment.mk kind)) = (brackets.map weight).sum := by
  simp [total, List.filter_map, Function.comp_def]

theorem total_other {other : Kind} (different : other ≠ kind) (weight : List Exchange → Nat)
    (brackets : List (List Exchange)) :
    total other weight (brackets.map (Segment.mk kind)) = 0 := by
  simp [total, List.filter_map, Function.comp_def, Ne.symm different]

theorem made_map (kind : Kind) (brackets : List (List Exchange)) :
    (brackets.map (Segment.mk kind)).flatMap Segment.made = brackets.flatten := by
  simp [List.flatMap_map, List.flatMap_id']

end Segment

/-- Nothing that was recorded is still to be folded. -/
def Desk.Idle (desk : Desk) : Prop :=
  desk.worker.recorder.account.pending = false ∧ desk.worker.recorder.account.unflushed = 0

instance (desk : Desk) : Decidable desk.Idle :=
  inferInstanceAs (Decidable (_ ∧ _))

/-- A kind of the worker is collected by the hub. -/
def Desk.Collects (desk : Desk) (kind : Kind) : Prop :=
  desk.worker.kinds.contains kind = true → (desk.shared.hub.accounts.get kind).enabled = true

instance (desk : Desk) (kind : Kind) : Decidable (desk.Collects kind) :=
  inferInstanceAs (Decidable (_ → _))

/-- Some exchanges, with the brackets among them, lead from one desk to the other, and what the
brackets sampled is in the hub. -/
structure Worked (r : Reckoning settings) (segments : List Segment) (made : List Exchange)
    (before after : Desk) : Prop where
  shared : ∃ hub finished, after.shared = { before.shared.answered made with hub, finished }
  worker : ∃ walk second recorder,
    after.worker = { before.worker with walk, second, recorder }
  paired : after.worker.second.isSome = before.worker.second.isSome
  within : ∀ bytes, before.Within bytes → after.Within bytes
  tended : before.Tended → after.Tended
  idle : before.Idle → after.Idle
  enabled : ∀ kind, (after.shared.hub.accounts.get kind).enabled =
    (before.shared.hub.accounts.get kind).enabled
  count : ∀ kind, before.Collects kind →
    (after.shared.hub.accounts.get kind).total.count =
      (before.shared.hub.accounts.get kind).total.count +
        Segment.total kind (samples kind) segments
  latency : ∀ kind, before.Collects kind → kind ≠ .iterate →
    before.shared.clock + elapsed made < wordLimit →
      (after.shared.hub.accounts.get kind).total.latency =
        (before.shared.hub.accounts.get kind).total.latency + Segment.total kind elapsed segments
  charged : ∀ kind, (before.shared.hub.accounts.get kind).enabled = true →
    (after.shared.hub.accounts.get kind).total ≤
      (before.shared.hub.accounts.get kind).total + r.toll kind made

namespace Worked

variable {segments later : List Segment} {made more : List Exchange} {before middle after : Desk}

theorem kinds (worked : Worked r segments made before after) :
    after.worker.kinds = before.worker.kinds := by
  obtain ⟨_, _, _, worker⟩ := worked.worker
  rw [worker]

theorem share (worked : Worked r segments made before after) :
    after.worker.share = before.worker.share := by
  obtain ⟨_, _, _, worker⟩ := worked.worker
  rw [worker]

theorem stopped (worked : Worked r segments made before after) :
    after.shared.stopped = (before.shared.stopped || made.any (·.answer.interrupted)) := by
  obtain ⟨_, _, shared⟩ := worked.shared
  rw [shared, ← Shared.stopped_answered]

theorem clock (worked : Worked r segments made before after)
    (ahead : before.shared.clock + elapsed made < wordLimit) :
    after.shared.clock = before.shared.clock + elapsed made := by
  obtain ⟨_, _, shared⟩ := worked.shared
  rw [shared]
  exact Shared.clock_answered ahead

theorem collects {kind : Kind} (worked : Worked r segments made before after)
    (collected : before.Collects kind) : after.Collects kind := by
  unfold Desk.Collects
  rw [worked.kinds, worked.enabled]
  exact collected

theorem asked (r : Reckoning settings) (made : List Exchange) (desk : Desk) :
    Worked r [] made desk (desk.answered made) where
  shared := ⟨desk.shared.hub, (desk.shared.answered made).finished, by
    change desk.shared.answered made = _
    rw [← Shared.hub_answered desk.shared made]⟩
  worker := ⟨_, _, _, rfl⟩
  paired := rfl
  within _ within := ⟨within.first, within.second⟩
  tended := by simp [Desk.Tended, Desk.answered]
  idle := id
  enabled _ := by simp [Desk.answered]
  count _ _ := by simp [Desk.answered]
  latency _ _ _ _ := by simp [Desk.answered]
  charged kind _ := by
    simp only [Desk.answered, Shared.hub_answered]
    exact le_self_add

theorem trans (first : Worked r segments made before middle)
    (second : Worked r later more middle after) :
    Worked r (segments ++ later) (made ++ more) before after where
  shared := by
    obtain ⟨_, _, earlier⟩ := first.shared
    obtain ⟨hub, finished, later⟩ := second.shared
    refine ⟨hub, finished, ?_⟩
    simp only [later, earlier, Shared.answered_aside, Shared.answered_append]
  worker := by
    obtain ⟨_, _, _, earlier⟩ := first.worker
    obtain ⟨walk, second, recorder, later⟩ := second.worker
    exact ⟨walk, second, recorder, by rw [later, earlier]⟩
  paired := second.paired.trans first.paired
  within bytes := second.within bytes ∘ first.within bytes
  tended := second.tended ∘ first.tended
  idle := second.idle ∘ first.idle
  enabled kind := (second.enabled kind).trans (first.enabled kind)
  count kind collected := by
    rw [second.count kind (first.collects collected), first.count kind collected,
      Segment.total_append, Nat.add_assoc]
  latency kind collected timed ahead := by
    rw [Engine.elapsed_append] at ahead
    have passed := first.clock (by omega)
    rw [second.latency kind (first.collects collected) timed (by omega),
      first.latency kind collected timed (by omega), Segment.total_append, Nat.add_assoc]
  charged kind collected := by
    refine (second.charged kind ((first.enabled kind).trans collected)).trans
      ((add_le_add_left (first.charged kind collected) _).trans ?_)
    rw [add_assoc]
    exact add_le_add_right (r.toll_append kind made more) _

end Worked

/-- A second key space is there for the kinds that need one. -/
def Desk.Paired (desk : Desk) : Prop :=
  desk.worker.kinds.meets .pairing = true → desk.worker.second.isSome = true

instance (desk : Desk) : Decidable desk.Paired :=
  inferInstanceAs (Decidable (_ → _))

/-- The second key space and the sums of a worker, after what was said. -/
structure Afforded (r : Reckoning settings) (said : List Exchange) (desk : Desk) : Prop where
  paired : desk.Paired
  within : desk.Within r.pairSize
  tended : r.tended → desk.Tended
  totals : ∀ kind, (desk.shared.hub.accounts.get kind).enabled = true →
    (desk.shared.hub.accounts.get kind).total ≤ r.base kind + r.toll kind said

theorem Worked.afforded {segments : List Segment} {made : List Exchange} {before after : Desk}
    (worked : Worked r segments made before after) (afforded : Afforded r said before) :
    Afforded r (said ++ made) after where
  paired := by
    unfold Desk.Paired
    rw [worked.kinds, worked.paired]
    exact afforded.paired
  within := worked.within _ afforded.within
  tended watched := worked.tended (afforded.tended watched)
  totals kind collected := by
    have before := (worked.enabled kind).symm.trans collected
    refine (worked.charged kind before).trans
      ((add_le_add_left (afforded.totals kind before) _).trans ?_)
    rw [add_assoc]
    exact add_le_add_right (r.toll_append kind said made) _

/-- The desk at the start of a kind: the walks and the recorder start afresh. -/
def Desk.started (desk : Desk) (kind : Kind) : Desk :=
  { desk with
    worker :=
      { desk.worker with
        walk := desk.worker.walk.rewind desk.worker.start
        second := desk.worker.second.map (·.rewind desk.worker.start)
        recorder := desk.worker.recorder.reset kind desk.shared.clock } }

theorem Desk.Within.started {bytes : Nat} (within : desk.Within bytes) (kind : Kind) :
    (desk.started kind).Within bytes where
  first := within.first
  second walk rewound := by
    obtain ⟨before, found, rfl⟩ := Option.map_eq_some_iff.mp rewound
    exact within.second before found

theorem Desk.owed_started (desk : Desk) (kind : Kind) :
    (desk.started kind).owed kind = (desk.shared.hub.accounts.get kind).total :=
  add_zero _

theorem Afforded.started (afforded : Afforded r said desk)
    (mine : desk.worker.kinds.contains kind = true) (listed : kind ∈ r.kinds) :
    Ready r said kind (desk.started kind) where
  recording := rfl
  faithful := Latency.Account.faithful_new
  paired needs := by
    change (desk.worker.second.map _).isSome = true
    rw [Option.isSome_map]
    exact afforded.paired (KindSet.meets_of_contains mine needs)
  listed := listed
  within := afforded.within.started kind
  tended := afforded.tended
  recorded := zero_le
  owed collected := by
    rw [desk.owed_started]
    exact afforded.totals kind collected

/-- What a kind gained since its start is in the hub once it is folded. -/
theorem Worked.folded (mine : desk.worker.kinds.contains kind = true) {made : List Exchange}
    {brackets : List (List Exchange)} {middle after : Desk}
    (split : made = brackets.flatten)
    (gains : Gains r kind made (brackets.map (samples kind)).sum (desk.started kind) middle)
    (ready : Ready r said kind middle)
    (left : after.shared = { middle.shared with hub := after.shared.hub } ∧
      after.worker = { middle.worker with recorder := after.worker.recorder })
    (carries : Recorder.Carries middle.shared.hub middle.worker.recorder 0 after.shared.hub
      after.worker.recorder)
    (settled : after.worker.recorder.account.pending = false)
    (watched : middle.Tended → after.Tended) :
    Worked r (brackets.map (Segment.mk kind)) made desk after := by
  have none := (carries.faithful ready.faithful).idle settled
  have owed (collected : (desk.shared.hub.accounts.get kind).enabled = true) :
      (after.shared.hub.accounts.get kind).total = middle.owed kind := by
    have sum := carries.owed kind ready.recording ((gains.enabled kind).trans collected)
      ready.faithful.split
    rw [none, add_zero, add_zero] at sum
    exact sum
  have apart {other : Kind} (different : other ≠ kind) :
      (after.shared.hub.accounts.get other).total = (desk.shared.hub.accounts.get other).total := by
    rw [carries.others other fun same =>
        different (Option.some.inj (same.symm.trans ready.recording)),
      gains.others other different]
    rfl
  exact
    { shared := by
        obtain ⟨hub, shared⟩ := gains.shared
        refine ⟨after.shared.hub, (desk.shared.answered made).finished, ?_⟩
        rw [left.1, shared]
        rfl
      worker := by
        obtain ⟨walk, second, recorder, worker⟩ := gains.worker
        refine ⟨walk, second, after.worker.recorder, ?_⟩
        rw [left.2, worker]
        rfl
      paired := by
        have kept : after.worker.second = middle.worker.second := by rw [left.2]
        rw [kept, gains.paired]
        exact Option.isSome_map
      within := fun bytes within => by
        have first : after.worker.walk = middle.worker.walk := by rw [left.2]
        have second : after.worker.second = middle.worker.second := by rw [left.2]
        have kept := gains.within bytes (within.started kind)
        exact ⟨first ▸ kept.first, fun walk found => kept.second walk (second ▸ found)⟩
      tended := watched ∘ gains.tended
      idle := fun _ => ⟨settled, none⟩
      enabled := fun other => (carries.enabled other).trans (gains.enabled other)
      count := fun other collected => by
        by_cases same : other = kind
        · subst same
          rw [owed (collected mine), gains.count (collected mine), Desk.owed_started,
            Segment.total_self]
        · rw [apart same, Segment.total_other same, Nat.add_zero]
      latency := fun other collected timed ahead => by
        by_cases same : other = kind
        · subst same
          rw [owed (collected mine), gains.latency (collected mine) timed ahead, Desk.owed_started,
            Segment.total_self, split, Engine.elapsed_flatten]
        · rw [apart same, Segment.total_other same, Nat.add_zero]
      charged := fun other collected => by
        by_cases same : other = kind
        · subst same
          rw [owed collected, ← desk.owed_started other]
          exact gains.owed collected
        · rw [apart same]
          exact le_self_add }

theorem runKind_yields (afforded : Afforded r said desk)
    (mine : desk.worker.kinds.contains kind = true) (listed : kind ∈ r.kinds) :
    Yields stage.Heard (since (Strain r) said) (runKind stage settings context kind) desk
      fun made outcome after => ∃ brackets,
        made = (brackets.map (Segment.mk kind)).flatMap Segment.made ∧
        KindRun settings context kind desk.worker.share brackets outcome.isOk ∧
        Worked r (brackets.map (Segment.mk kind)) made desk after := by
  have ready := afforded.started mine listed
  unfold runKind
  apply Yields.bind
  apply Yields.modifies
  apply Yields.reads
  apply Yields.bind
  apply Yields.attempt
  apply (kindSteps_yields ready desk.worker.share).mono
  rintro made outcome middle ⟨brackets, passed⟩
  have middling := passed.gains.ready ready
  refine (withRecorder_yields ?_).bindFrom ?_ ?_
  · intro cause fails
    change since (since (Strain r) said) made [] cause
    rw [since_append]
    rcases Recorder.merge_error fails with rfl | rfl
    · exact middling.strain (zero_le : 0 ≤ r.toll kind []) (Recorder.merge_overflow fails)
    · refine .overcounted fun watched => ?_
      obtain ⟨others, attendance⟩ := middling.tended watched
      cases (Recorder.merge_attended _ attendance).sound _ fails
  · rintro more cause after ⟨_, impossible, _⟩
    cases impossible
  · rintro more done after ⟨rfl, _, rfl, emission, merges⟩
    apply Yields.settle
    rw [List.append_nil, List.append_nil, List.nil_append]
    refine ⟨brackets, ?_, passed.run, ?_⟩
    · rw [Segment.made_map, passed.said]
    · refine Worked.folded mine passed.said passed.gains middling ⟨rfl, rfl⟩
        (Recorder.merge_carries merges) (Recorder.merge_settled middling.recording merges) ?_
      intro cared
      obtain ⟨others, attendance⟩ := cared
      exact ⟨others, (Recorder.merge_attended _ attendance).attendance⟩

/-- Passes fail only with a failure, and are halted only if the run is stopped. -/
structure Verdict.Explains {α : Type} (verdict : Verdict) (outcome : Except Failure α)
    (after : Desk) : Prop where
  failed : verdict = .failed ↔ outcome.isOk = false
  halted : verdict = .halted → after.shared.stopped = true

theorem Worked.stays {segments : List Segment} {made : List Exchange} {before after : Desk}
    (worked : Worked r segments made before after) (stopped : before.shared.stopped = true) :
    after.shared.stopped = true := by
  rw [worked.stopped, stopped, Bool.true_or]

theorem kindsOfPass_yields {kinds : List Kind} (afforded : Afforded r said desk)
    (mine : ∀ kind ∈ kinds, desk.worker.kinds.contains kind = true)
    (listed : ∀ kind ∈ kinds, kind ∈ r.kinds) :
    Yields stage.Heard (since (Strain r) said) (kindsOfPass stage settings context kinds) desk
      fun made outcome after => ∃ segments verdict, made = segments.flatMap Segment.made ∧
        PassRun settings context desk.worker.share kinds segments verdict ∧
        Worked r segments made desk after ∧ verdict.Explains outcome after ∧
        ∀ all, outcome = .ok all → (all = true ↔ verdict = .whole) := by
  induction kinds generalizing desk said with
  | nil =>
      exact Yields.pure
        ⟨[], .whole, rfl, .complete, .asked r [] desk, ⟨by simp, by simp⟩, by simp⟩
  | cons kind kinds ih =>
      unfold kindsOfPass
      apply Yields.reads
      split
      · next stopped =>
        exact Yields.pure ⟨[], .halted, rfl, .halted, .asked r [] desk,
          ⟨by simp, fun _ => stopped⟩, by simp⟩
      · apply (runKind_yields afforded (mine kind List.mem_cons_self)
          (listed kind List.mem_cons_self)).bindSince
        · rintro made cause after ⟨brackets, split, run, worked⟩
          exact ⟨_, .failed, split, .failed run, worked, ⟨by simp, by simp⟩, by simp⟩
        · rintro made done middle ⟨brackets, split, run, worked⟩
          have later : ∀ kind ∈ kinds, middle.worker.kinds.contains kind = true := by
            intro kind member
            rw [worked.kinds]
            exact mine kind (List.mem_cons_of_mem _ member)
          apply (ih (worked.afforded afforded) later
            fun kind member => listed kind (List.mem_cons_of_mem _ member)).mono
          rintro more outcome after ⟨segments, verdict, saying, rest, further, explains, all⟩
          rw [worked.share] at rest
          refine ⟨_, verdict, ?_, .step run rest, worked.trans further, explains, all⟩
          rw [List.flatMap_append, ← split, ← saying]

/-- A worker that has made its passes is counted. -/
theorem Worked.finish {segments : List Segment} {made : List Exchange} {before after : Desk}
    (worked : Worked r segments made before after) (finished : Nat) :
    Worked r segments made before { after with shared := { after.shared with finished } } :=
  { worked with
    shared := by
      obtain ⟨hub, _, shared⟩ := worked.shared
      exact ⟨hub, finished, by rw [shared]⟩
    within := fun bytes within =>
      ⟨(worked.within bytes within).first, (worked.within bytes within).second⟩ }

/-- What a worker says in its passes after the first `passes`, and what becomes of its desk. -/
structure PassesMade (r : Reckoning settings) (context passes : Nat)
    (rounds : List (List Segment)) (verdict : Verdict) (before : Desk) (made : List Exchange)
    (outcome : Except Failure Unit) (after : Desk) : Prop where
  said : made = rounds.flatten.flatMap Segment.made
  work : Rounds settings context before.worker.kinds.toList before.worker.share passes rounds
    verdict
  worked : Worked r rounds.flatten made before after
  explains : verdict.Explains outcome after

namespace PassesMade

variable {passes : Nat} {segments : List Segment} {rounds : List (List Segment)}
  {verdict : Verdict} {middle after : Desk} {made more : List Exchange}
  {outcome : Except Failure Unit}

theorem last (split : made = segments.flatMap Segment.made)
    (work : Rounds settings context desk.worker.kinds.toList desk.worker.share passes [segments]
      verdict)
    (worked : Worked r segments made desk after) (explains : verdict.Explains outcome after) :
    PassesMade r context passes [segments] verdict desk made outcome after where
  said := by rw [split, List.flatten_singleton]
  work := work
  worked := by rwa [List.flatten_singleton]
  explains := explains

theorem step (wanted : passes < settings.passes ∨ settings.continuous = true)
    (split : made = segments.flatMap Segment.made)
    (pass : PassRun settings context desk.worker.share desk.worker.kinds.toList segments .whole)
    (worked : Worked r segments made desk middle)
    (rest : PassesMade r context (passes + 1) rounds verdict middle more outcome after) :
    PassesMade r context passes (segments :: rounds) verdict desk (made ++ more) outcome
      after where
  said := by rw [List.flatten_cons, List.flatMap_append, ← split, ← rest.said]
  work := by
    have later := rest.work
    rw [worked.kinds, worked.share] at later
    exact .step wanted pass later
  worked := by
    rw [List.flatten_cons]
    exact worked.trans rest.worked
  explains := rest.explains

end PassesMade

theorem Bracket.said_pos {left used : Nat} {made : List Exchange}
    (bracket : Bracket settings context left kind made used) : 0 < made.length := by
  have transaction {kind : Kind} {made : List Exchange} {whole : Bool} {pairs : List (Pair × Pair)}
      (scripted : Scripted (Exchange.fine settings kind) (transactionCalls context kind pairs) made
        whole) : 0 < made.length := by
    obtain ⟨begun, rest, rfl⟩ := scripted.opens
    exact Nat.succ_pos _
  cases bracket with
  | crud pairs said => exact transaction said
  | batch pairs filled said => exact transaction said
  | _ => simp

/-- A worker without operations passes through its kinds without a word. -/
def Desk.Workless (desk : Desk) : Prop :=
  desk.worker.share = 0 ∨ desk.worker.kinds.toList = []

theorem PassRun.said_pos {share : Nat} {kinds : List Kind} {segments : List Segment}
    (run : PassRun settings context share kinds segments .whole) (some : share ≠ 0)
    (any : kinds ≠ []) : 0 < (segments.flatMap Segment.made).length := by
  cases run with
  | complete => exact absurd rfl any
  | step run rest =>
      rw [List.flatMap_append, List.length_append, Segment.made_map]
      cases run with
      | complete => exact absurd rfl some
      | step bracket clean further =>
          have said := bracket.said_pos
          rw [List.flatten_cons, List.length_append]
          omega

/-- A worker on the way through its passes, each of which said something if there was anything to
do. -/
structure Enduring (r : Reckoning settings) (said : List Exchange) (passes : Nat) (desk : Desk) :
    Prop where
  afforded : Afforded r said desk
  listed : ∀ kind ∈ desk.worker.kinds.toList, kind ∈ r.kinds
  idle : desk.Workless → settings.continuous = true ∨ wordLimit ≤ settings.passes → r.idle
  spoken : desk.Workless ∨ passes ≤ said.length
  wanted : settings.continuous = true ∨ passes ≤ settings.passes

namespace Enduring

variable {passes : Nat}

/-- So many passes are more calls than can be made, or they are passes without operations. -/
theorem strain (enduring : Enduring r said passes desk) (many : wordLimit ≤ passes) :
    Strain r said .overflow := by
  rcases enduring.spoken with workless | spoken
  · exact .idle (enduring.idle workless (enduring.wanted.imp_right many.trans))
  · exact .calls (many.trans spoken)

theorem step {segments : List Segment} {made : List Exchange} {middle : Desk}
    (enduring : Enduring r said passes desk)
    (wanted : passes < settings.passes ∨ settings.continuous = true)
    (split : made = segments.flatMap Segment.made)
    (pass : PassRun settings context desk.worker.share desk.worker.kinds.toList segments .whole)
    (worked : Worked r segments made desk middle) :
    Enduring r (said ++ made) (passes + 1) middle := by
  have same : middle.Workless = desk.Workless := by
    unfold Desk.Workless
    rw [worked.kinds, worked.share]
  refine
    { afforded := worked.afforded enduring.afforded
      listed := worked.kinds ▸ enduring.listed
      idle := same ▸ enduring.idle
      spoken := ?_
      wanted := wanted.symm }
  rw [same]
  by_cases workless : desk.Workless
  · exact .inl workless
  · obtain ⟨some, any⟩ := not_or.mp workless
    have spoken := enduring.spoken.resolve_left workless
    have further := pass.said_pos some any
    rw [← split] at further
    rw [List.length_append]
    exact .inr (by omega)

end Enduring

/-- What the sums of a worker are reckoned from at its desk. -/
def Desk.reckoning (settings : Settings) (desk : Desk) : Reckoning settings where
  pairSize := max desk.worker.walk.pairSize ((desk.worker.second.map (·.pairSize)).getD 0)
  kinds := desk.worker.kinds.toList
  base kind := (desk.shared.hub.accounts.get kind).total
  tended := desk.Tended
  idle := desk.Workless ∧ (settings.continuous = true ∨ wordLimit ≤ settings.passes)

theorem Desk.afforded (settings : Settings) (paired : desk.Paired) :
    Afforded (desk.reckoning settings) [] desk where
  paired := paired
  within := by
    refine ⟨Nat.le_max_left _ _, fun walk second => ?_⟩
    have size : (desk.worker.second.map (·.pairSize)).getD 0 = walk.pairSize := by
      rw [second]
      rfl
    exact size ▸ Nat.le_max_right _ _
  tended := id
  totals _ _ := le_self_add

/-- What the sums of a single pass of a kind are reckoned from. -/
def Desk.reckoningOf (settings : Settings) (kind : Kind) (desk : Desk) : Reckoning settings :=
  { desk.reckoning settings with kinds := [kind], idle := False }

theorem Desk.affordedOf (settings : Settings) (kind : Kind) (paired : desk.Paired) :
    Afforded (desk.reckoningOf settings kind) [] desk :=
  { desk.afforded settings paired with }

theorem Desk.enduring (settings : Settings) (paired : desk.Paired) :
    Enduring (desk.reckoning settings) [] 0 desk where
  afforded := desk.afforded settings paired
  listed _ := id
  idle workless endless := ⟨workless, endless⟩
  spoken := .inr (Nat.zero_le _)
  wanted := .inr (Nat.zero_le _)

/-- After a whole pass the worker goes on, unless the run is stopped. -/
theorem resumePasses_yields {passes room : Nat} {segments : List Segment} {middle : Desk}
    {made : List Exchange}
    (again : ∀ {desk : Desk} {said : List Exchange}, Enduring r said (passes + 1) desk →
      Yields stage.Heard (since (Strain r) said)
        (passesFrom stage settings context (passes + 1) room) desk
        fun more outcome after => ∃ rounds verdict,
          PassesMade r context (passes + 1) rounds verdict desk more outcome after)
    (enduring : Enduring r said passes desk)
    (wanted : passes < settings.passes ∨ settings.continuous = true)
    (split : made = segments.flatMap Segment.made)
    (pass : PassRun settings context desk.worker.share desk.worker.kinds.toList segments .whole)
    (worked : Worked r segments made desk middle) :
    Yields stage.Heard (since (Strain r) (said ++ made))
      (do
        if (← get).shared.stopped then pure ()
        else passesFrom stage settings context (passes + 1) room) middle
      fun more outcome after => ∃ rounds verdict,
        PassesMade r context passes rounds verdict desk (made ++ more) outcome after := by
  apply Yields.reads
  split
  · next stopped =>
    apply Yields.pure
    rw [List.append_nil]
    exact ⟨_, _, .last split (.halted wanted pass) worked ⟨by simp, fun _ => stopped⟩⟩
  · apply (again (enduring.step wanted split pass worked)).mono
    rintro more outcome after ⟨rounds, verdict, rest⟩
    exact ⟨_, _, .step wanted split pass worked rest⟩

theorem passesFrom_yields {passes room : Nat} (enduring : Enduring r said passes desk)
    (enough : wordLimit ≤ passes + room) :
    Yields stage.Heard (since (Strain r) said) (passesFrom stage settings context passes room) desk
      fun made outcome after => ∃ rounds verdict,
        PassesMade r context passes rounds verdict desk made outcome after := by
  induction room generalizing desk said passes with
  | zero => exact Yields.panics ((enduring.strain enough).append [])
  | succ room ih =>
      unfold passesFrom
      apply Yields.reads
      split
      · next another =>
        have wanted : passes < settings.passes ∨ settings.continuous = true := by
          simp only [anotherPass, Bool.or_eq_true, decide_eq_true_eq, Bool.and_eq_true] at another
          exact another.imp_right And.left
        have mine : ∀ kind ∈ desk.worker.kinds.toList, desk.worker.kinds.contains kind = true :=
          fun kind => (KindSet.mem_toList _ kind).mp
        apply Yields.reads
        apply (kindsOfPass_yields enduring.afforded mine enduring.listed).bindSince
        · rintro made cause after ⟨segments, verdict, split, pass, worked, explains, _⟩
          have failed : verdict = .failed := explains.failed.mpr rfl
          have short : verdict ≠ .whole := by
            rw [failed]
            simp
          exact ⟨_, _, .last split (.broken wanted pass short) worked
            ⟨explains.failed.trans Iff.rfl, explains.halted⟩⟩
        · rintro made all middle ⟨segments, verdict, split, pass, worked, explains, complete⟩
          cases all with
          | false =>
              have short : verdict ≠ .whole := fun whole => by
                cases (complete false rfl).mpr whole
              apply Yields.pure
              rw [List.append_nil]
              exact ⟨_, _, .last split (.broken wanted pass short) worked
                ⟨explains.failed.trans Iff.rfl, explains.halted⟩⟩
          | true =>
              obtain rfl : verdict = .whole := (complete true rfl).mp rfl
              have further {counted : Desk} (worked : Worked r segments made desk counted) :=
                resumePasses_yields
                  (fun {_ _} enduring => @ih _ _ (passes + 1) enduring (by omega)) enduring
                  wanted split pass worked
              rw [if_pos rfl]
              dsimp only
              split
              · apply Yields.bind
                apply Yields.modifies
                exact further (worked.finish _)
              · exact further worked
      · next enough =>
        have made : settings.passes ≤ passes := by
          simp only [anotherPass, Bool.not_eq_true, Bool.or_eq_false_iff, decide_eq_false_iff_not,
            Nat.not_lt] at enough
          exact enough.1
        exact Yields.pure ⟨[], .whole, rfl, .complete made, .asked r [] desk,
          ⟨by simp, by simp⟩⟩

end StoreBench.Run
