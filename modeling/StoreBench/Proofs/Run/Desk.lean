import StoreBench.Proofs.Run.Scene

/-! A worker at its desk.

The state of a worker within one of its kinds is said by a mark: which coordinates the store holds,
how far the walks went, what may still be recorded, and how long ago the sample began.  Each step
of a worker takes it from mark to mark.
-/

namespace StoreBench.Run

open StoreBench.Engine (Answers Call Entry)
open StoreBench.Latency (Books Emission Hub Paced Recorder)

variable {W σ α : Type}

namespace Scene

variable (scene : Scene W)

/-- The books are kept, with room for `rest` more samples, and the selected kinds are collected.
The samples took no more than the time that passed, with one that has been running for so long. -/
def Booked (running time : Nat) (rest : Kind → Nat) (hub : Hub) (recorders : List Recorder) :
    Prop :=
  ∃ log, Books log ⟨hub, recorders⟩ ∧
    Paced scene.settings.bytes scene.quota rest running time log ∧
    ∀ kind, scene.settings.selected.contains kind = true →
      (hub.accounts.get kind).enabled = true

namespace Booked

variable {scene} {running time : Nat} {rest : Kind → Nat} {hub : Hub} {recorder : Recorder}
  {recorders others : List Recorder}

theorem relax (booked : scene.Booked running time rest hub recorders) {less : Kind → Nat}
    (fewer : less ≤ rest) : scene.Booked running time less hub recorders := by
  obtain ⟨log, books, paced, enabled⟩ := booked
  exact ⟨log, books, paced.relax fewer, enabled⟩

theorem pass (booked : scene.Booked running time rest hub recorders) {took later : Nat}
    (passes : later ≤ running + took) : scene.Booked later (time + took) rest hub recorders := by
  obtain ⟨log, books, paced, enabled⟩ := booked
  exact ⟨log, books, paced.pass passes, enabled⟩

theorem ease (booked : scene.Booked running time rest hub recorders) {less : Nat}
    (shorter : less ≤ running) : scene.Booked less time rest hub recorders :=
  @pass W scene running time rest hub recorders booked 0 less shorter

theorem perm (booked : scene.Booked running time rest hub recorders)
    (same : recorders.Perm others) : scene.Booked running time rest hub others := by
  obtain ⟨log, books, paced, enabled⟩ := booked
  exact ⟨log, books.perm same, paced, enabled⟩

theorem add {kind : Kind} {left start now volume : Nat}
    (booked : scene.Booked (now - start) time (rest + Pi.single kind (left + 1)) hub
      (recorder :: others))
    (sure : scene.sure) (timely : time < wordLimit) (of : recorder.kind = some kind)
    (selected : scene.settings.selected.contains kind = true)
    (charged : volume = scene.settings.bytes kind) :
    (∃ emission, (recorder.add hub start now volume).1 = .ok emission) ∧
      scene.Booked 0 time (rest + Pi.single kind left) (recorder.add hub start now volume).2.2
        ((recorder.add hub start now volume).2.1 :: others) := by
  obtain ⟨log, books, paced, enabled⟩ := booked
  have entered := @Latency.Paced.record _ _ _ _ _ _ _ ⟨start, now, volume⟩ paced charged
  obtain ⟨succeeds, next, collecting⟩ := books.add of (enabled kind selected)
    (entered.fitting timely (scene.fits sure))
  exact ⟨succeeds, _, next, entered, fun other member => collecting other (enabled other member)⟩

theorem merge (booked : scene.Booked running time rest hub (recorder :: others))
    (sure : scene.sure) (timely : time < wordLimit) (now : Nat) :
    (∃ emission, (recorder.merge hub now).1 = .ok emission) ∧
      scene.Booked running time rest (recorder.merge hub now).2.2
        ((recorder.merge hub now).2.1 :: others) := by
  obtain ⟨log, books, paced, enabled⟩ := booked
  obtain ⟨succeeds, next, collecting⟩ := books.merge (paced.fitting timely (scene.fits sure)) now
  exact ⟨succeeds, log, next, paced, fun kind member => collecting kind (enabled kind member)⟩

theorem reset (booked : scene.Booked running time rest hub (recorder :: others))
    (sure : scene.sure) (timely : time < wordLimit)
    (settled : recorder.account.pending = false) (kind : Kind) (now : Nat) :
    scene.Booked running time rest hub (recorder.reset kind now :: others) := by
  obtain ⟨log, books, paced, enabled⟩ := booked
  have fits := paced.fitting timely (scene.fits sure)
  exact ⟨log, books.reset fits settled kind now, paced, enabled⟩

theorem drop (booked : scene.Booked running time rest hub (recorder :: others))
    (sure : scene.sure) (timely : time < wordLimit)
    (settled : recorder.account.pending = false) (now : Nat) :
    (∃ emission, (recorder.drop hub now).1 = .ok emission) ∧
      scene.Booked running time rest (recorder.drop hub now).2 others := by
  obtain ⟨log, books, paced, enabled⟩ := booked
  have fits := paced.fitting timely (scene.fits sure)
  obtain ⟨succeeds, next, collecting⟩ := books.drop fits settled now
  exact ⟨succeeds, log, next, paced, fun kind member => collecting kind (enabled kind member)⟩

theorem attach (booked : scene.Booked running time rest hub recorders) (sure : scene.sure)
    (timely : time < wordLimit) (now : Nat) :
    scene.Booked running time rest (Recorder.new hub now).2
      (recorders ++ [(Recorder.new hub now).1]) := by
  obtain ⟨log, books, paced, enabled⟩ := booked
  obtain ⟨next, collecting⟩ := books.attach (paced.fitting timely (scene.fits sure)) now
  exact ⟨log, next, paced, fun kind member => collecting kind (enabled kind member)⟩

theorem mirror (booked : scene.Booked running time rest hub recorders) (sure : scene.sure)
    (timely : time < wordLimit) (writer : Latency.Writer) :
    scene.Booked running time rest (hub.mirror writer) recorders := by
  obtain ⟨log, books, paced, enabled⟩ := booked
  obtain ⟨next, collecting⟩ := books.mirror (paced.fitting timely (scene.fits sure)) writer
  exact ⟨log, next, paced, fun kind member => collecting kind (enabled kind member)⟩

end Booked

/-- From one description to another, unless it goes wrong and was not sure to go well. -/
abbrev Goes (pre : σ → W → Prop) (piece : Piece W σ α) (post : α → σ → W → Prop) : Prop :=
  Ensures (fun _ _ world => scene.Spoiled world) pre piece post

end Scene

/-- How far a worker is within a kind. -/
structure Mark where
  points : Set Nat
  made : Nat
  later : Nat
  rest : Kind → Nat
  begun : Option Nat

/-- After a call that leaves the store with other coordinates. -/
def Mark.called (mark : Mark) (left : Set Nat) : Mark :=
  ⟨left, mark.made, mark.later, mark.rest, mark.begun⟩

/-- The time that the sample has been running. -/
def Mark.spent (mark : Mark) (clock : Nat) : Nat :=
  mark.begun.elim 0 fun start => clock - start

theorem Mark.spent_le (mark : Mark) (clock took : Nat) :
    mark.spent ((clock + took) % wordLimit) ≤ mark.spent clock + took := by
  have less := Nat.mod_le (clock + took) wordLimit
  unfold spent
  rcases mark.begun with _ | start
  · exact Nat.zero_le _
  · simp only [Option.elim_some]
    omega

/-- A worker on its slot is at a mark of the kind it runs; between kinds nothing is pending. -/
structure Scene.At (scene : Scene W) (slot : Slot) (others : List Recorder) (kind : Option Kind)
    (mark : Mark) (desk : Desk) (world : W) : Prop where
  holds : scene.Holds mark.points world
  running : desk.shared.stopped = false
  kinds : desk.worker.kinds = scene.settings.selected
  start : desk.worker.start = slot.start
  share : desk.worker.share = slot.share
  walk : desk.worker.walk =
    .along scene.shape scene.settings.valueSize slot.space slot.start mark.made
  second : desk.worker.second =
    if scene.settings.selected.meets .pairing then
      some (.along scene.shape scene.settings.valueSize (slot.space + 1) slot.start mark.later)
    else none
  recording : ∀ chosen ∈ kind, desk.worker.recorder.kind = some chosen
  roomy : scene.sure → mark.rest ≤ scene.quota
  settled : kind = none → desk.worker.recorder.account.pending = false
  charged : desk.worker.recorder.Charged scene.settings.selected scene.settings.bytes
    desk.shared.hub
  booked : scene.Fine world →
    scene.Booked (mark.spent desk.shared.clock) (scene.window.time world) mark.rest
      desk.shared.hub (desk.worker.recorder :: others)

namespace Scene

variable {scene : Scene W} {slot : Slot} {others : List Recorder} {kind : Option Kind}
  {mark : Mark} {desk : Desk} {world next : W} {fail : Stop → Desk → W → Prop}

theorem Fine.before {took : Nat} (fine : scene.Fine next)
    (time : scene.window.time next = scene.window.time world + took) : scene.Fine world := by
  obtain ⟨sure, timely⟩ := fine
  exact ⟨sure, by omega⟩

theorem At.relax (at_ : scene.At slot others kind mark desk world) {less : Kind → Nat}
    (fewer : less ≤ mark.rest) :
    scene.At slot others kind ⟨mark.points, mark.made, mark.later, less, none⟩ desk world :=
  { at_ with
    roomy := fun sure => le_trans fewer (at_.roomy sure)
    booked := fun fine => ((at_.booked fine).relax fewer).ease (Nat.zero_le _) }

/-- Makes a call, answered on the coordinates of the mark. -/
theorem asks {call : Call} {results : Except EngineError Pair → Prop} {left : Set Nat}
    (answers : Answers scene.shape scene.settings.valueSize mark.points call results left)
    (finds : ∀ result, results result → (Entry.mk call (.ofResult result)).missesKey = false) :
    Ensures fail (scene.At slot others kind mark) (ask scene.host.stage call)
      fun result desk world => results result ∧
        scene.At slot others kind (mark.called left) desk world := by
  unfold ask
  -- The world knows of the time before the clock of the desk does.
  refine Ensures.bind (m := fun answer desk world =>
      (∃ result, answer.reply = .ofResult result ∧ results result) ∧
        answer.interrupted = false ∧ scene.At slot others kind (mark.called left) desk world ∧
        (scene.Fine world → ∃ time, scene.window.time world = time + answer.took ∧
          scene.Booked (mark.spent desk.shared.clock) time mark.rest desk.shared.hub
            (desk.worker.recorder :: others))) (Ensures.lift ?_) ?_
  · intro desk world at_
    obtain ⟨result, reply, allowed, uninterrupted, time, holds⟩ := at_.holds.call answers finds
    refine ⟨⟨result, reply, allowed⟩, uninterrupted, ?_, fun fine => ?_⟩
    · refine
        { at_ with
          holds
          booked := fun fine => ?_ }
      have passed : scene.Booked (mark.spent desk.shared.clock)
          (scene.window.time world + (scene.host.engine call world).1.took) mark.rest
          desk.shared.hub (desk.worker.recorder :: others) :=
        (at_.booked (fine.before time)).pass (Nat.le_add_right _ _)
      rw [← time] at passed
      exact passed
    · exact ⟨_, time, at_.booked (fine.before time)⟩
  · intro answer
    refine Ensures.bind (m := fun _ desk world =>
      (∃ result, answer.reply = .ofResult result ∧ results result) ∧
        scene.At slot others kind (mark.called left) desk world)
      (Ensures.modify ?_) ?_
    · intro desk world given
      obtain ⟨replied, uninterrupted, at_, booked⟩ := given
      refine ⟨replied, { at_ with running := ?_, booked := fun fine => ?_ }⟩
      · simp [Shared.afterAnswer, at_.running, uninterrupted]
      · obtain ⟨before, time, booked⟩ := booked fine
        rw [time]
        exact booked.pass (mark.spent_le _ _)
    · intro _
      refine Ensures.learn fun replied => ?_
      obtain ⟨result, reply, allowed⟩ := replied
      rw [reply]
      cases result with
      | ok pair => exact Ensures.pure fun _ _ at_ => ⟨allowed, at_⟩
      | error cause => exact Ensures.pure fun _ _ at_ => ⟨allowed, at_⟩

theorem asks_ok {call : Call} {pair : Pair} {left : Set Nat}
    (answers : Answers scene.shape scene.settings.valueSize mark.points call (· = .ok pair) left) :
    Ensures fail (scene.At slot others kind mark) (ask scene.host.stage call)
      fun result desk world => result = .ok pair ∧
        scene.At slot others kind (mark.called left) desk world := by
  refine asks answers ?_
  intro result same
  obtain rfl := same
  exact Entry.missesKey_ok call pair

theorem demands {call : Call} {pair : Pair} {left : Set Nat}
    (answers : Answers scene.shape scene.settings.valueSize mark.points call (· = .ok pair) left) :
    Ensures fail (scene.At slot others kind mark) (demand scene.host.stage call)
      fun result desk world => result = pair ∧
        scene.At slot others kind (mark.called left) desk world := by
  unfold demand
  refine Ensures.bindTo (asks_ok answers) ?_
  exact Ensures.pure fun _ _ at_ => ⟨rfl, at_⟩

theorem begins : scene.Goes (scene.At slot others kind mark) (now : Work (StateM W) Nat)
    fun start => scene.At slot others kind
      ⟨mark.points, mark.made, mark.later, mark.rest, some start⟩ := by
  unfold now
  refine Ensures.bind (m := fun found desk world => found = desk ∧
    scene.At slot others kind mark desk world) (Ensures.get fun _ _ at_ => ⟨rfl, at_⟩) ?_
  intro found
  refine Ensures.pure ?_
  intro desk world given
  obtain ⟨rfl, at_⟩ := given
  refine { at_ with booked := fun fine => (at_.booked fine).ease ?_ }
  simp [Mark.spent]

theorem At.quiet (at_ : scene.At slot others kind mark desk world)
    (quiet : scene.Quiet world next) : scene.At slot others kind mark desk next :=
  { at_ with
    holds := at_.holds.quiet quiet
    booked := fun fine => by
      rw [quiet.still.time]
      exact at_.booked (quiet.fine.mp fine) }

/-- The desk after an operation of the recorder. -/
def withBooks (desk : Desk) (recorder : Recorder) (hub : Hub) : Desk :=
  { desk with
    shared := { desk.shared with hub }
    worker := { desk.worker with recorder } }

/-- An operation of the recorder, with the line that it may cause. -/
theorem operates
    {operation : Recorder → Hub → Nat → Except Panic (Option Emission) × Recorder × Hub}
    {pre post : Desk → W → Prop}
    (succeeds : ∀ desk world, pre desk world → scene.Fine world → ∃ emission,
      (operation desk.worker.recorder desk.shared.hub desk.shared.clock).1 = .ok emission)
    (leaves : ∀ desk world, pre desk world → ∀ emission,
      (operation desk.worker.recorder desk.shared.hub desk.shared.clock).1 = .ok emission → post
        (withBooks desk (operation desk.worker.recorder desk.shared.hub desk.shared.clock).2.1
          (operation desk.worker.recorder desk.shared.hub desk.shared.clock).2.2) world)
    (quiet : ∀ desk world next, post desk world → scene.Quiet world next → post desk next)
    (spoils : ∀ desk world, pre desk world → ¬ scene.Fine world → scene.Spoiled world) :
    scene.Goes pre (withRecorder scene.host.stage operation) fun _ => post := by
  unfold withRecorder
  refine Ensures.bind (m := fun found desk world => found = desk ∧ pre desk world)
    (Ensures.get fun _ _ holds => ⟨rfl, holds⟩) fun found => ?_
  rcases acts : operation found.worker.recorder found.shared.hub found.shared.clock with
    ⟨result, recorder, hub⟩
  refine Ensures.bind (m := fun _ desk world =>
    (∀ emission, result = .ok emission → post desk world) ∧
      (∀ cause, result = .error cause → scene.Spoiled world)) (Ensures.set ?_) fun _ => ?_
  · intro desk world given
    obtain ⟨rfl, holds⟩ := given
    have left := leaves found world holds
    have succeeded := succeeds found world holds
    rw [acts] at left succeeded
    refine ⟨left, fun cause failed => spoils found world holds fun fine => ?_⟩
    obtain ⟨emission, succeeded⟩ := succeeded fine
    rw [failed] at succeeded
    cases succeeded
  · rcases result with cause | _ | emission
    · exact Ensures.throw fun _ _ given => given.2 cause rfl
    · exact Ensures.pure fun _ _ given => given.1 _ rfl
    · exact Ensures.lift fun desk world given =>
        quiet desk world _ (given.1 _ rfl) (scene.publish_quiet emission world)

theorem records {chosen : Kind} {rest : Kind → Nat} {left start volume : Nat}
    {points : Set Nat} {made later : Nat}
    (selected : scene.settings.selected.contains chosen = true)
    (charged : volume = scene.settings.bytes chosen) :
    scene.Goes
      (scene.At slot others (some chosen)
        ⟨points, made, later, rest + Pi.single chosen (left + 1), some start⟩)
      (record scene.host.stage start volume)
      fun _ => scene.At slot others (some chosen)
        ⟨points, made, later, rest + Pi.single chosen left, none⟩ := by
  have entered {desk : Desk} {world : W} (fine : scene.Fine world)
      (at_ : scene.At slot others (some chosen)
        ⟨points, made, later, rest + Pi.single chosen (left + 1), some start⟩ desk world) :
      (∃ emission, (desk.worker.recorder.add desk.shared.hub start desk.shared.clock volume).1 =
        .ok emission) ∧
        scene.Booked 0 (scene.window.time world) (rest + Pi.single chosen left)
          (desk.worker.recorder.add desk.shared.hub start desk.shared.clock volume).2.2
          ((desk.worker.recorder.add desk.shared.hub start desk.shared.clock volume).2.1 ::
            others) :=
    (at_.booked fine).add fine.1 fine.2 (at_.recording _ rfl) selected charged
  unfold record
  split
  · next large =>
    refine Ensures.bind (m := fun _ _ _ => False) (Ensures.throw fun desk world at_ => ?_)
      fun _ _ _ impossible => impossible.elim
    refine at_.holds.spoil fun fine => ?_
    have room := at_.roomy fine.sure chosen
    have fits := (scene.fits fine.sure chosen).2
    simp only [Pi.add_apply, Pi.single_eq_same] at room
    rw [← charged] at fits
    have least : 1 * volume ≤ scene.quota chosen * volume :=
      Nat.mul_le_mul_right _ (by omega)
    omega
  · refine operates (fun desk world at_ fine => (entered fine at_).1) ?_
      (fun _ _ _ => At.quiet) fun _ _ at_ => at_.holds.spoil
    intro desk world at_ emission adds
    refine
      { at_ with
        recording := fun kind member =>
          (Recorder.add_kind ..).trans (at_.recording kind member)
        roomy := fun sure => le_trans ?_ (at_.roomy sure)
        settled := fun none => by cases none
        charged := by
          rw [charged] at adds ⊢
          exact at_.charged.add (at_.recording chosen rfl) selected adds
        booked := fun fine => (entered fine at_).2 }
    intro other
    simp only [Pi.add_apply, Pi.single_apply]
    split
    · omega
    · exact Nat.le_refl _

end Scene

end StoreBench.Run
