import StoreBench.Proofs.Run.Passes

/-! The workers of a run.

Workers are enlisted on their slots before the first of them starts, and each has its turn.  What
is done besides calls, with the files and the console, either goes well or was not sure to.
-/

namespace StoreBench.Run

open StoreBench.Keys (Walk)
open StoreBench.Latency (Account Emission Hub Recorder)

variable {W : Type}

namespace Scene

variable {scene : Scene W} {points : Set Nat} {rest : Kind → Nat} {recorders others : List Recorder}
  {shared : Shared} {world next : W}

/-- The run goes on: these recorders are attached to its hub. -/
structure Open (scene : Scene W) (points : Set Nat) (rest : Kind → Nat)
    (recorders : List Recorder) (shared : Shared) (world : W) : Prop where
  holds : scene.Holds points world
  running : shared.stopped = false
  roomy : scene.sure → rest ≤ scene.quota
  charged : shared.hub.Charged scene.settings.selected scene.settings.bytes
  booked : scene.Fine world →
    scene.Booked 0 (scene.window.time world) rest shared.hub recorders

/-- The workers are done, and nothing is wrong unless a thread broke down. -/
structure Done (scene : Scene W) (points : Set Nat) (shared : Shared) (world : W) : Prop where
  holds : scene.Holds points world
  charged : shared.hub.Charged scene.settings.selected scene.settings.bytes
  running : scene.sure → shared.stopped = false

/-- Descriptions that survive whatever the host does besides calls. -/
structure Steady (scene : Scene W) (describes : Shared → W → Prop) : Prop where
  quiet : ∀ shared world next, describes shared world → scene.Quiet world next →
    describes shared next
  ready : ∀ shared world, describes shared world → scene.sure → scene.ready world
  spoils : ∀ shared world, describes shared world → ¬ scene.Fine world → scene.Spoiled world

theorem open_steady (scene : Scene W) (points : Set Nat) (rest : Kind → Nat)
    (recorders : List Recorder) : scene.Steady (scene.Open points rest recorders) where
  quiet _ _ _ opened quiet :=
    { opened with
      holds := opened.holds.quiet quiet
      booked := fun fine => by
        rw [quiet.still.time]
        exact opened.booked (quiet.fine.mp fine) }
  ready _ _ opened := opened.holds.ready
  spoils _ _ opened := opened.holds.spoil

theorem done_steady (scene : Scene W) (points : Set Nat) : scene.Steady (scene.Done points) where
  quiet _ _ _ done quiet := { done with holds := done.holds.quiet quiet }
  ready _ _ done := done.holds.ready
  spoils _ _ done := done.holds.spoil

theorem wrong_steady (scene : Scene W) (known : Prop) : scene.Steady (scene.Wrong known) where
  quiet _ _ _ wrong quiet := ⟨wrong.1.quiet quiet, wrong.2⟩
  ready _ _ wrong := wrong.1.ready
  spoils _ _ wrong _ := wrong.1

/-- A step of the files that goes well if it is sure to. -/
structure Reliable {α : Type} (scene : Scene W) (step : StateM W (Except FileError α))
    (good : α → Prop) : Prop where
  still : ∀ world, scene.window.Still world (step world).2
  serves : scene.sure → ∀ world, scene.ready world →
    (∃ value, (step world).1 = .ok value ∧ good value) ∧ scene.ready (step world).2

theorem measure_reliable (scene : Scene W) :
    scene.Reliable (scene.host.measure scene.settings.folder) Usage.Modest where
  still := scene.hosts.measure _
  serves sure world ready := (scene.serves sure).measure world ready

theorem create_reliable (scene : Scene W) {start : String}
    (wanted : start ∈ scene.settings.reports) (item : String) :
    scene.Reliable (scene.host.create
      (Settings.reportName start scene.name scene.settings.durability.sync item))
      fun _ => True where
  still := scene.hosts.create _
  serves sure world ready := by
    obtain ⟨created, still⟩ := (scene.serves sure).create start wanted item world ready
    exact ⟨⟨(), created, trivial⟩, still⟩

theorem write_reliable (scene : Scene W) {start : String}
    (wanted : start ∈ scene.settings.reports) (item text : String) :
    scene.Reliable (scene.host.write
      (Settings.reportName start scene.name scene.settings.durability.sync item) text)
      fun _ => True where
  still := scene.hosts.write _ _
  serves sure world ready := by
    obtain ⟨written, still⟩ := (scene.serves sure).write start wanted item text world ready
    exact ⟨⟨(), written, trivial⟩, still⟩

theorem makeFolders_reliable (scene : Scene W) :
    scene.Reliable (scene.host.makeFolders scene.settings.folder) fun _ => True where
  still := scene.hosts.makeFolders _
  serves sure world ready := by
    obtain ⟨created, still⟩ := (scene.serves sure).makeFolders world ready
    exact ⟨⟨(), created, trivial⟩, still⟩

section Steady

variable {describes : Shared → W → Prop} {α : Type} {step : StateM W (Except FileError α)}
  {good : α → Prop}

theorem Steady.lifts (steady : scene.Steady describes) (reliable : scene.Reliable step good)
    {fail : Stop → Shared → W → Prop} :
    Ensures fail describes (liftM step : Running (StateM W) (Except FileError α))
      fun outcome shared world => (scene.sure → ∃ value, outcome = .ok value ∧ good value) ∧
        describes shared world := by
  refine Ensures.lift fun shared world holds => ⟨fun sure => ?_, ?_⟩
  · exact (reliable.serves sure world (steady.ready shared world holds sure)).1
  · exact steady.quiet shared world _ holds
      ⟨reliable.still world, fun sure ready => (reliable.serves sure world ready).2⟩

theorem Steady.fileStep (steady : scene.Steady describes) (reliable : scene.Reliable step good) :
    scene.Goes describes (fileStep step) fun value shared world =>
      (scene.sure → good value) ∧ describes shared world := by
  unfold Run.fileStep
  refine Ensures.bind (steady.lifts reliable) fun outcome => ?_
  refine Ensures.learn fun serves => ?_
  cases outcome with
  | ok value =>
      refine Ensures.pure fun _ _ holds => ⟨fun sure => ?_, holds⟩
      obtain ⟨_, same, well⟩ := serves sure
      cases same
      exact well
  | error cause =>
      refine Ensures.throw fun shared world holds => steady.spoils shared world holds fun fine => ?_
      obtain ⟨_, impossible, _⟩ := serves fine.sure
      cases impossible

theorem Steady.prints (steady : scene.Steady describes) (lines : List String)
    {fail : Stop → Shared → W → Prop} :
    Ensures fail describes (sayAll scene.host lines) fun _ => describes := by
  have all : Ensures fail describes
      (forIn lines PUnit.unit fun line (_ : PUnit) => do
        (scene.host.say line : StateM W Unit)
        pure (.yield PUnit.unit) : Running (StateM W) PUnit) fun _ => describes := by
    induction lines with
    | nil => exact Ensures.pure fun _ _ holds => holds
    | cons line lines ih =>
        rw [List.forIn_cons]
        refine Ensures.bind (m := fun step shared world => step = .yield PUnit.unit ∧
          describes shared world) ?_ fun step => ?_
        · refine Ensures.bind (m := fun _ => describes) (Ensures.lift ?_)
            fun _ => Ensures.pure fun _ _ holds => ⟨rfl, holds⟩
          exact fun shared world holds =>
            steady.quiet shared world _ holds (scene.say_quiet line world)
        · refine Ensures.learn fun yields => ?_
          rw [yields]
          exact ih
  unfold sayAll
  exact Ensures.bind all fun _ => Ensures.pure fun _ _ holds => holds

theorem Steady.changes {pre : Shared → W → Prop} (steady : scene.Steady describes)
    {change : Hub → Nat → Except Panic (Option Emission) × Hub}
    (succeeds : ∀ shared world, pre shared world → scene.Fine world → ∃ emission,
      (change shared.hub shared.clock).1 = .ok emission)
    (leaves : ∀ shared world, pre shared world →
      describes { shared with hub := (change shared.hub shared.clock).2 } world) :
    scene.Goes pre (withHub scene.host change) fun _ => describes := by
  unfold withHub
  refine Ensures.bind (m := fun found shared world => found = shared ∧ pre shared world)
    (Ensures.get fun _ _ holds => ⟨rfl, holds⟩) fun found => ?_
  rcases acts : change found.hub found.clock with ⟨result, hub⟩
  refine Ensures.bind (m := fun _ shared world =>
    (scene.Fine world → ∃ emission, result = .ok emission) ∧ describes shared world)
    (Ensures.set ?_) fun _ => ?_
  · intro shared world given
    obtain ⟨rfl, holds⟩ := given
    have left := leaves found world holds
    have succeeded := succeeds found world holds
    rw [acts] at left succeeded
    exact ⟨succeeded, left⟩
  · rcases result with cause | _ | emission
    · refine Ensures.throw fun shared world given => ?_
      obtain ⟨succeeded, holds⟩ := given
      refine steady.spoils shared world holds fun fine => ?_
      obtain ⟨_, impossible⟩ := succeeded fine
      cases impossible
    · exact Ensures.pure fun _ _ given => given.2
    · exact Ensures.lift fun shared world given =>
        steady.quiet shared world _ given.2 (scene.publish_quiet emission world)

end Steady

/-- A worker as it was enlisted on its slot. -/
structure Seated (scene : Scene W) (slot : Slot) (worker : Worker) : Prop where
  kinds : worker.kinds = scene.settings.selected
  start : worker.start = slot.start
  share : worker.share = slot.share
  walk : worker.walk = .along scene.shape scene.settings.valueSize slot.space slot.start 0
  second : worker.second =
    if scene.settings.selected.meets .pairing then
      some (.along scene.shape scene.settings.valueSize (slot.space + 1) slot.start 0)
    else none
  settled : worker.recorder.account.pending = false
  faithful : worker.recorder.account.Faithful

theorem Open.sit {slot : Slot} {worker : Worker}
    (opened : scene.Open points rest (worker.recorder :: others) shared world)
    (seated : scene.Seated slot worker) :
    scene.Between slot others points rest ⟨shared, worker⟩ world :=
  ⟨0, 0,
    { holds := opened.holds
      running := opened.running
      kinds := seated.kinds
      start := seated.start
      share := seated.share
      walk := seated.walk
      second := seated.second
      recording := fun _ member => by cases member
      settled := fun _ => seated.settled
      charged := opened.charged.sit seated.faithful seated.settled
      roomy := opened.roomy
      booked := opened.booked }⟩

theorem Between.leave {slot : Slot} {desk : Desk}
    (between : scene.Between slot others points rest desk world) :
    desk.worker.recorder.account.pending = false ∧
      scene.Open points rest (desk.worker.recorder :: others) desk.shared world := by
  obtain ⟨_, _, at_⟩ := between
  have settled := at_.settled rfl
  exact ⟨settled, at_.holds, at_.running, at_.roomy, at_.charged.leave settled, at_.booked⟩

theorem dismiss_goes {worker : Worker} :
    scene.Goes
      (fun shared world => worker.recorder.account.pending = false ∧
        scene.Open points rest (worker.recorder :: others) shared world)
      (dismiss scene.host worker) fun _ => scene.Open points rest others := by
  unfold dismiss
  refine Ensures.bind (m := fun _ shared world =>
    worker.recorder.account.pending = false ∧
      scene.Open points rest (worker.recorder :: others) shared world)
    (Ensures.modify fun _ _ given => ⟨given.1, { given.2 with }⟩) fun _ => ?_
  refine (scene.open_steady points rest others).changes ?_ ?_
  · intro shared world given fine
    obtain ⟨settled, opened⟩ := given
    exact ((opened.booked fine).drop fine.1 fine.2 settled _).1
  · intro shared world given
    obtain ⟨settled, opened⟩ := given
    exact
      { opened with
        charged := (shared.hub.detach_level _ _).charged opened.charged
        booked := fun fine => ((opened.booked fine).drop fine.1 fine.2 settled _).2 }

theorem dismiss_wrong (known : Prop) (worker : Worker) :
    scene.Goes (scene.Wrong known) (dismiss scene.host worker) fun _ => scene.Wrong known := by
  unfold dismiss
  refine Ensures.bind (m := fun _ => scene.Wrong known)
    (Ensures.modify fun _ _ wrong => wrong) fun _ => ?_
  refine (scene.wrong_steady known).changes ?_ fun _ _ wrong => wrong
  exact fun _ _ wrong fine => absurd fine wrong.1.unfine

/-- The turn of a worker is its work, with the worker put down again. -/
theorem turnOf_ends {fail' : Stop → Shared → W → Prop} {fail : Stop → Desk → W → Prop}
    {pre : Desk → W → Prop} {post : Unit → Desk → W → Prop} {settings : Settings} {context : Nat}
    {worker : Worker} (ensures : Ensures fail pre (fulfil scene.host.stage settings context) post) :
    Ensures fail' (fun shared => pre ⟨shared, worker⟩) (turnOf scene.host settings context worker)
      fun ended shared world =>
        match ended.1 with
        | .ok done => post done ⟨shared, ended.2⟩ world
        | .error stop => fail stop ⟨shared, ended.2⟩ world := by
  intro shared world holds
  have ends := ensures ⟨shared, worker⟩ world holds
  have ran : runFrom (turnOf scene.host settings context worker) shared world =
      ((.ok ((runFrom (fulfil scene.host.stage settings context) ⟨shared, worker⟩ world).1.1,
          (runFrom (fulfil scene.host.stage settings context) ⟨shared, worker⟩ world).1.2.worker),
        (runFrom (fulfil scene.host.stage settings context) ⟨shared, worker⟩ world).1.2.shared),
        (runFrom (fulfil scene.host.stage settings context) ⟨shared, worker⟩ world).2) := rfl
  rw [ran]
  generalize runFrom (fulfil scene.host.stage settings context) ⟨shared, worker⟩ world =
    ended at ends
  rcases ended with ⟨⟨_ | _, desk⟩, left⟩
  · exact ends
  · exact ends

/-- The slots of a scene: each within the key spaces, and none on the second space of another. -/
structure Lots (scene : Scene W) (slots : List Slot) : Prop where
  kinds : ∀ slot ∈ slots, slot.kinds = scene.settings.selected
  inside : ∀ slot ∈ slots, slot.space < scene.shape.spaces
  spare : scene.settings.selected.meets .pairing = true →
    ∀ slot ∈ slots, slot.space + 1 < scene.shape.spaces
  apart : scene.settings.selected.meets .pairing = true →
    ∀ slot ∈ slots, ∀ other ∈ slots, other.space ≠ slot.space + 1
  around : scene.settings.selected.contains .delete = true →
    ∀ slot ∈ slots, slot.share ≤ scene.shape.period
  closed : scene.settings.selected.Closed
  busy : scene.settings.selected.isEmpty = false
  repeats : 0 < scene.settings.passes
  countable : scene.sure → scene.settings.passes < wordLimit

variable {prepared : Prepared} {slots : List Slot} {slot : Slot}

theorem enlistSlot_goes (settings : prepared.settings = scene.settings)
    (shape : prepared.shape = scene.shape) (lots : scene.Lots slots) (member : slot ∈ slots)
    (number : Nat) :
    scene.Goes (scene.Open points rest recorders) (enlistSlot prepared number slot)
      fun worker shared world => scene.Seated slot worker ∧
        scene.Open points rest (recorders ++ [worker.recorder]) shared world := by
  unfold enlistSlot
  rw [settings, shape, lots.kinds slot member]
  refine Ensures.bind (m := fun found shared world => found = shared ∧
    scene.Open points rest recorders shared world)
    (Ensures.get fun _ _ opened => ⟨rfl, opened⟩) fun found => ?_
  by_cases small : scene.shape.keySize + scene.settings.valueSize < wordLimit / 2
  · have enlisted : Worker.enlist scene.settings scene.shape number scene.settings.selected
        slot.space slot.start slot.share found =
        .ok (⟨number, scene.settings.selected, slot.start, slot.share,
            .along scene.shape scene.settings.valueSize slot.space slot.start 0,
            if scene.settings.selected.meets .pairing = true then
              some (.along scene.shape scene.settings.valueSize (slot.space + 1) slot.start 0)
            else none,
            (Recorder.new found.hub found.clock).1⟩,
          { found with
            hub := (Recorder.new found.hub found.clock).2
            enlisted := found.enlisted + 1 }) := by
      unfold Worker.enlist
      rw [lots.busy, Walk.new_along (lots.inside slot member) small]
      rcases pairing : scene.settings.selected.meets .pairing with _ | _
      · rfl
      · rw [Walk.new_along (lots.spare pairing slot member) small]
        rfl
    rw [enlisted]
    refine Ensures.bind (m := fun _ => scene.Open points rest
      (recorders ++ [(Recorder.new found.hub found.clock).1])) (Ensures.set ?_)
      fun _ => Ensures.pure fun _ _ opened => ⟨⟨rfl, rfl, rfl, rfl, rfl, rfl, Account.faithful_new⟩, opened⟩
    intro shared world given
    obtain ⟨rfl, opened⟩ := given
    exact
      { opened with
        charged := found.hub.attach_level.charged opened.charged
        booked := fun fine => (opened.booked fine).attach fine.1 fine.2 _ }
  · obtain ⟨stop, failed⟩ : ∃ stop, Worker.enlist scene.settings scene.shape number
        scene.settings.selected slot.space slot.start slot.share found = .error stop := by
      obtain ⟨stop, failed⟩ := @Walk.new_along_error scene.shape scene.settings.valueSize
        slot.space slot.start small
      refine ⟨stop, ?_⟩
      unfold Worker.enlist
      rw [lots.busy, failed]
      rfl
    rw [failed]
    refine Ensures.throw fun shared world given => given.2.holds.spoil fun fine => small ?_
    rw [scene.keySize]
    exact scene.addressable fine.sure

theorem enlistAll_goes (settings : prepared.settings = scene.settings)
    (shape : prepared.shape = scene.shape) (lots : scene.Lots slots) {here : List Slot}
    (within : here ⊆ slots) (number : Nat) :
    scene.Goes (scene.Open points rest recorders) (enlistAll prepared number here)
      fun workers shared world => List.Forall₂ scene.Seated here workers ∧
        scene.Open points rest (recorders ++ workers.map (·.recorder)) shared world := by
  induction here generalizing number recorders with
  | nil =>
      refine Ensures.pure fun _ _ opened => ⟨.nil, ?_⟩
      rw [List.map_nil, List.append_nil]
      exact opened
  | cons slot here ih =>
      obtain ⟨member, within⟩ := List.cons_subset.mp within
      unfold enlistAll
      refine Ensures.bind (enlistSlot_goes settings shape lots member number) fun worker => ?_
      refine Ensures.learn fun seated => ?_
      refine Ensures.bind (ih within (number + 1)) fun workers => ?_
      refine Ensures.learn fun others => ?_
      refine Ensures.pure fun _ _ opened => ⟨.cons seated others, ?_⟩
      rw [List.map_cons, ← List.singleton_append, ← List.append_assoc]
      exact opened

/-- The samples of some workers in all their passes. -/
def needs (scene : Scene W) (slots : List Slot) : Kind → Nat :=
  (slots.map fun slot => scene.settings.passes • scene.need slot).sum

/-- What some workers, one after the other, make of the coordinates held. -/
def leaves (scene : Scene W) (slots : List Slot) (points : Set Nat) : Set Nat :=
  slots.foldl (fun points slot => scene.passed slot points) points

/-- Only coordinates of the workers' first spaces are held. -/
def Grounded (scene : Scene W) (slots : List Slot) (points : Set Nat) : Prop :=
  ∀ point ∈ points, ∃ slot ∈ slots, point / scene.shape.period = slot.space

theorem Lots.placed (lots : scene.Lots slots) (member : slot ∈ slots)
    (grounded : scene.Grounded slots points) : scene.Placed slot points where
  inside := lots.inside slot member
  spare pairing := lots.spare pairing slot member
  free pairing steps held := by
    obtain ⟨other, owner, space⟩ := grounded _ held
    rw [scene.sound.spot_div] at space
    exact lots.apart pairing slot member other owner space.symm

theorem Lots.passable (lots : scene.Lots slots) (member : slot ∈ slots)
    (grounded : scene.Grounded slots points) : scene.Passable slot points :=
  Scene.passable lots.closed (fun deletes => lots.around deletes slot member)
    (lots.placed member grounded)

theorem Lots.grounded (lots : scene.Lots slots) (member : slot ∈ slots)
    (grounded : scene.Grounded slots points) :
    scene.Grounded slots (scene.passed slot points) := by
  have own : ∀ point ∈ points ∪ scene.region slot,
      ∃ slot ∈ slots, point / scene.shape.period = slot.space := by
    intro point given
    rcases given with held | stored
    · exact grounded point held
    · exact ⟨slot, member, scene.sound.div_of_mem stored⟩
  intro point held
  rw [passed, throughout_eq lots.closed] at held
  split at held
  · exact own point held
  · split at held
    · exact grounded point held.1
    · exact grounded point held

theorem retires_wrong (worker : Worker) (clock : Nat) (failure : Failure) :
    scene.Goes (scene.Wrong True)
      (do
        dismiss scene.host worker
        modify fun shared => { shared with clock }
        return some failure)
      fun failed shared world => failed.isSome = true ∧ scene.Wrong True shared world :=
  Ensures.bind (dismiss_wrong True worker) fun _ =>
    Ensures.bind (m := fun _ => scene.Wrong True) (Ensures.modify fun _ _ wrong => wrong)
      fun _ => Ensures.pure fun _ _ wrong => ⟨rfl, wrong⟩

/-- A worker that ended well left its work, or one that did not stopped the run. -/
theorem threadTurn_goes (settings : prepared.settings = scene.settings) (lots : scene.Lots slots)
    (member : slot ∈ slots) (grounded : scene.Grounded slots points) {worker : Worker}
    (seated : scene.Seated slot worker) :
    scene.Goes
      (scene.Open points (rest + scene.settings.passes • scene.need slot)
        (worker.recorder :: others))
      (threadTurn scene.host prepared none worker)
      fun failure shared world =>
        match failure with
        | none => scene.Open (scene.passed slot points) rest others shared world
        | some _ => scene.Wrong True shared world := by
  unfold threadTurn
  rw [settings]
  refine Ensures.reads (p := fun _ => True) (fun _ _ _ => trivial) fun found _ => ?_
  refine Ensures.bind (m := fun _ => scene.Open points
    (rest + scene.settings.passes • scene.need slot) (worker.recorder :: others))
    (Ensures.modify fun _ _ opened => { opened with }) fun _ => ?_
  have works := @fulfil_goes W scene slot others points rest worker.number
    (lots.passable member grounded) lots.repeats lots.countable
  refine Ensures.bind ((turnOf_ends works).before fun _ _ opened => opened.sit seated)
    fun ended => ?_
  obtain ⟨result, worker⟩ := ended
  have stops (failure : Failure) : scene.Goes (scene.Wrong True)
      (do
        dismiss scene.host worker
        modify fun shared => { shared with clock := found.clock }
        return some failure)
      fun failure shared world =>
        match failure with
        | none => scene.Open (scene.passed slot points) rest others shared world
        | some _ => scene.Wrong True shared world := by
    refine (retires_wrong worker found.clock failure).after ?_
    intro failure shared world given
    obtain ⟨failed, wrong⟩ := given
    obtain ⟨cause, rfl⟩ := Option.isSome_iff_exists.mp failed
    exact wrong
  rcases result with (cause | cause) | done
  · refine Ensures.bindTo (Ensures.pure fun _ _ wrong => ⟨rfl, wrong⟩) ?_
    exact (stops cause).before fun _ _ wrong => ⟨wrong.1, fun _ => wrong.2 ⟨cause, rfl⟩⟩
  · refine Ensures.bind (m := fun _ => scene.Wrong True)
      (Ensures.modify fun _ _ wrong => ⟨wrong.1, fun _ => rfl⟩) fun _ => ?_
    exact Ensures.bindTo (Ensures.pure fun _ _ wrong => ⟨rfl, wrong⟩) (stops _)
  · refine Ensures.bindTo (Ensures.pure fun _ _ between => ⟨rfl, between⟩) ?_
    refine Ensures.bind (dismiss_goes.before fun _ _ between => Between.leave between)
      fun _ => ?_
    exact Ensures.bind (m := fun _ => scene.Open (scene.passed slot points) rest others)
      (Ensures.modify fun _ _ opened => { opened with }) fun _ =>
        Ensures.pure fun _ _ opened => opened

theorem threadTurn_wrong (settings : prepared.settings = scene.settings) (failure : Failure)
    (worker : Worker) :
    scene.Goes (scene.Wrong True) (threadTurn scene.host prepared (some failure) worker)
      fun failure shared world => failure.isSome = true ∧ scene.Wrong True shared world := by
  unfold threadTurn
  rw [settings]
  refine Ensures.reads (p := fun _ => True) (fun _ _ _ => trivial) fun found _ => ?_
  refine Ensures.bind (m := fun _ => scene.Wrong True)
    (Ensures.modify fun _ _ wrong => wrong) fun _ => ?_
  refine Ensures.bind (turnOf_ends (fulfil_halted worker.number)) fun ended => ?_
  obtain ⟨result, worker⟩ := ended
  rcases result with (cause | cause) | done
  · exact Ensures.bindTo (Ensures.pure fun _ _ wrong => ⟨rfl, wrong⟩) (retires_wrong _ _ _)
  · refine Ensures.bind (m := fun _ => scene.Wrong True)
      (Ensures.modify fun _ _ wrong => ⟨wrong.1, fun _ => rfl⟩) fun _ => ?_
    exact Ensures.bindTo (Ensures.pure fun _ _ wrong => ⟨rfl, wrong⟩) (retires_wrong _ _ _)
  · exact Ensures.bindTo (Ensures.pure fun _ _ wrong => ⟨rfl, wrong⟩) (retires_wrong _ _ _)

theorem threadTurns_wrong (settings : prepared.settings = scene.settings) (failure : Failure)
    (workers : List Worker) :
    scene.Goes (scene.Wrong True) (threadTurns scene.host prepared (some failure) workers)
      fun failure shared world => failure.isSome = true ∧ scene.Wrong True shared world := by
  induction workers generalizing failure with
  | nil => exact Ensures.pure fun _ _ wrong => ⟨rfl, wrong⟩
  | cons worker workers ih =>
      unfold threadTurns
      refine Ensures.bind (threadTurn_wrong settings failure worker) fun failed => ?_
      refine Ensures.learn fun some => ?_
      obtain ⟨cause, rfl⟩ := Option.isSome_iff_exists.mp some
      exact ih cause

/-- Workers that take their turns in this order leave what they make one after the other. -/
theorem threadTurns_goes (settings : prepared.settings = scene.settings) (lots : scene.Lots slots)
    {order : List Slot} (within : order ⊆ slots) (grounded : scene.Grounded slots points)
    {workers : List Worker} (seated : List.Forall₂ scene.Seated order workers) :
    scene.Goes (scene.Open points (rest + scene.needs order) (workers.map (·.recorder)))
      (threadTurns scene.host prepared none workers)
      fun failure shared world =>
        match failure with
        | none => scene.Open (scene.leaves order points) rest [] shared world
        | some _ => scene.Wrong True shared world := by
  induction seated generalizing points with
  | nil =>
      have none : scene.needs [] = 0 := rfl
      rw [none, add_zero]
      exact Ensures.pure fun _ _ opened => opened
  | @cons slot worker order workers sits _ ih =>
      obtain ⟨member, within⟩ := List.cons_subset.mp within
      have split : rest + scene.needs (slot :: order) =
          rest + scene.needs order + scene.settings.passes • scene.need slot := by
        rw [needs, List.map_cons, List.sum_cons, ← needs]
        abel
      rw [split, List.map_cons]
      unfold threadTurns
      refine Ensures.bind (threadTurn_goes settings lots member grounded sits) fun failure => ?_
      cases failure with
      | none => exact ih within (lots.grounded member grounded)
      | some cause =>
          refine (threadTurns_wrong settings cause workers).after ?_
          intro failure shared world given
          obtain ⟨failed, wrong⟩ := given
          obtain ⟨cause, rfl⟩ := Option.isSome_iff_exists.mp failed
          exact wrong

end Scene

end StoreBench.Run
