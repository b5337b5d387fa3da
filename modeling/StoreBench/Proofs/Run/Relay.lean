import StoreBench.Proofs.Run.Course
import StoreBench.Proofs.Run.Halting

/-! The turns of the workers.

The workers of threads take their turns one after the other, each from the state that the one before
left.  Whatever the end of a turn is, also a panic, the worker leaves the hub in order and the next
one has its turn; the first failure among the turns is that of all.
-/

namespace StoreBench.Run

open StoreBench.Engine (Answer Call Exchange)
open StoreBench.Latency (Attendance Emission Hub)

variable {W : Type}

/-- A turn of a worker: how its work ended, and what was said. -/
structure Turn where
  worker : Worker
  result : Except Stop Unit
  said : List Exchange

namespace Turn

/-- What a turn failed with, as a run tells it: a panic names the worker. -/
def failure? (turn : Turn) : Option Failure :=
  match turn.result with
  | .ok () => none
  | .error (.failure cause) => some cause
  | .error (.panic _) => some (.aborted (.panicked turn.worker.number))

def panicked (turn : Turn) : Bool :=
  match turn.result with
  | .error (.panic _) => true
  | _ => false

/-- From a state of the run, the worker does its work like this and leaves a desk. -/
structure Played (host : Host (StateM W)) (settings : Settings) (record : W → List Exchange)
    (turn : Turn) (shared : Shared) (world : W) (desk : Desk) (left : W) : Prop where
  paired : Desk.Paired ⟨shared, turn.worker⟩
  tended : Desk.Tended ⟨shared, turn.worker⟩
  ran : runFrom (fulfil host.stage settings turn.worker.number) ⟨shared, turn.worker⟩ world =
    ((turn.result, desk), left)
  heard : record left = record world ++ turn.said

theorem exists_played {host : Host (StateM W)} {record : W → List Exchange}
    (heard : host.Heard record) (settings : Settings) {shared : Shared} {worker : Worker}
    (paired : Desk.Paired ⟨shared, worker⟩) (tended : Desk.Tended ⟨shared, worker⟩) (world : W) :
    ∃ (turn : Turn) (desk : Desk) (left : W), turn.worker = worker ∧
      turn.Played host settings record shared world desk left := by
  obtain ⟨said, told, _⟩ := @fulfil_tells _ settings worker.number host.stage record
    ⟨shared, worker⟩ world heard.stage paired
  generalize ended : runFrom (fulfil host.stage settings worker.number) ⟨shared, worker⟩ world =
    found at told
  obtain ⟨⟨result, desk⟩, left⟩ := found
  exact ⟨⟨worker, result, said⟩, desk, left, rfl, paired, tended, ended, told⟩

namespace Played

variable {host : Host (StateM W)} {settings : Settings} {record : W → List Exchange} {turn : Turn}
  {shared : Shared} {world left : W} {desk : Desk}

/-- What every effect of the worker keeps is true of the desk that it leaves. -/
theorem keeps (played : turn.Played host settings record shared world desk left)
    {kept : Desk × W → Prop} (step : ∀ before after,
      Effect host.stage turn.worker.number before after → kept before → kept after)
    (holds : kept (⟨shared, turn.worker⟩, world)) : kept (desk, left) := by
  have ends := (@fulfil_acts _ host.stage turn.worker.number ⟨shared, turn.worker⟩
    settings).keeps step holds
  rw [played.ran] at ends
  exact ends

theorem number (played : turn.Played host settings record shared world desk left) :
    desk.worker.number = turn.worker.number :=
  @keeps _ _ _ _ _ _ _ _ _ played (fun now => now.1.worker.number = turn.worker.number)
    (fun _ _ effect same => effect.number.trans same) rfl

theorem attended (played : turn.Played host settings record shared world desk left)
    {others : List Nat}
    (attendance : Attendance shared.hub (turn.worker.recorder.epoch :: others)) :
    Attendance desk.shared.hub (desk.worker.recorder.epoch :: others) :=
  @keeps _ _ _ _ _ _ _ _ _ played
    (fun now => Attendance now.1.shared.hub (now.1.worker.recorder.epoch :: others))
    (fun _ _ effect => effect.attended) attendance

end Played

end Turn

/-- Turns of workers with a clock of their own, each from the state that the one before left. -/
inductive Relay (host : Host (StateM W)) (settings : Settings) (record : W → List Exchange) :
    Shared → W → List Turn → Shared → W → Prop where
  | done (shared : Shared) (world : W) : Relay host settings record shared world [] shared world
  | turn {shared current after : Shared} {world middle left last : W} {turn : Turn}
      {turns : List Turn} {desk : Desk}
      (played : turn.Played host settings record { shared with clock := 0 } world desk middle)
      (leaves : runFrom (dismiss host desk.worker)
        { desk.shared with stopped := desk.shared.stopped || turn.panicked } middle =
          ((.ok (), current), left))
      (rest : Relay host settings record { current with clock := shared.clock } left turns after
        last) : Relay host settings record shared world (turn :: turns) after last

section Leaving

theorem runFrom_pure {σ α : Type} (value : α) (state : σ) (world : W) :
    runFrom (pure value : Piece W σ α) state world = ((.ok value, state), world) := rfl

theorem runFrom_reads {σ α : Type} (next : σ → Piece W σ α) (state : σ) (world : W) :
    runFrom (get >>= next) state world = runFrom (next state) state world := rfl

theorem runFrom_modifies {σ α : Type} (change : σ → σ) (next : PUnit → Piece W σ α) (state : σ)
    (world : W) :
    runFrom (modify change >>= next) state world = runFrom (next ⟨⟩) (change state) world := rfl

variable {host : Host (StateM W)} {record : W → List Exchange} {shared : Shared} {world : W}

/-- A change of the hub ends well unless the change itself does not. -/
theorem runFrom_withHub (host : Host (StateM W))
    (change : Hub → Nat → Except Panic (Option Emission) × Hub) (shared : Shared) (world : W) :
    runFrom (withHub host change) shared world =
      ((match (change shared.hub shared.clock).1 with
        | .error cause => .error (.panic cause)
        | .ok _ => .ok (), { shared with hub := (change shared.hub shared.clock).2 }),
        match (change shared.hub shared.clock).1 with
        | .ok (some emission) => (host.publish emission world).2
        | _ => world) := by
  unfold withHub
  rw [runFrom_reads]
  rcases change shared.hub shared.clock with ⟨cause | _ | emission, hub⟩
  · rfl
  · rfl
  · rfl

theorem runFrom_dismiss (host : Host (StateM W)) (worker : Worker) (shared : Shared) (world : W) :
    runFrom (dismiss host worker) shared world =
      runFrom (withHub host worker.recorder.drop)
        { shared with enlisted := shared.enlisted - 1 } world := rfl

theorem dismiss_stopped (host : Host (StateM W)) (worker : Worker) (shared : Shared) (world : W) :
    (runFrom (dismiss host worker) shared world).1.2.stopped = shared.stopped := by
  rw [runFrom_dismiss, runFrom_withHub]

theorem withHub_silent (heard : host.Heard record)
    (change : Hub → Nat → Except Panic (Option Emission) × Hub) (shared : Shared) (world : W) :
    record (runFrom (withHub host change) shared world).2 = record world := by
  rw [runFrom_withHub]
  rcases (change shared.hub shared.clock).1 with cause | _ | emission
  · rfl
  · rfl
  · exact heard.publishes emission world

theorem dismiss_silent (heard : host.Heard record) (worker : Worker) (shared : Shared)
    (world : W) : record (runFrom (dismiss host worker) shared world).2 = record world :=
  withHub_silent heard worker.recorder.drop { shared with enlisted := shared.enlisted - 1 } world

theorem dismiss_leaves (host : Host (StateM W)) {worker : Worker} {others : List Nat}
    (attendance : Attendance shared.hub (worker.recorder.epoch :: others)) (world : W) :
    ∃ current left, runFrom (dismiss host worker) shared world = ((.ok (), current), left) ∧
      Attendance current.hub others := by
  obtain ⟨emission, well, detached⟩ := attendance.detach shared.clock
  rw [runFrom_dismiss, runFrom_withHub, Latency.Recorder.drop, well]
  exact ⟨_, _, rfl, detached.attendance⟩

end Leaving

section Turns

theorem firstFailure_eq (earlier : Option Failure) (later : Failure) :
    firstFailure earlier later = earlier.or (some later) := by
  cases earlier with
  | none => rfl
  | some cause => rfl

variable {host : Host (StateM W)} {record : W → List Exchange} {prepared : Prepared}
  {shared : Shared} {world : W}

theorem runFrom_turnOf {settings : Settings} {turn : Turn} {desk : Desk} {left : W}
    (played : turn.Played host settings record shared world desk left) :
    runFrom (turnOf host settings turn.worker.number turn.worker) shared world =
      ((.ok (turn.result, desk.worker), desk.shared), left) := by
  have taken : runFrom (turnOf host settings turn.worker.number turn.worker) shared world =
      ((.ok ((runFrom (fulfil host.stage settings turn.worker.number)
          ⟨shared, turn.worker⟩ world).1.1,
        (runFrom (fulfil host.stage settings turn.worker.number)
          ⟨shared, turn.worker⟩ world).1.2.worker),
        (runFrom (fulfil host.stage settings turn.worker.number)
          ⟨shared, turn.worker⟩ world).1.2.shared),
        (runFrom (fulfil host.stage settings turn.worker.number)
          ⟨shared, turn.worker⟩ world).2) := rfl
  rw [taken, played.ran]

theorem runFrom_threadTurn {turn : Turn} {desk : Desk} {current : Shared} {middle left : W}
    (played : turn.Played host prepared.settings record { shared with clock := 0 } world desk
      middle)
    (leaves : runFrom (dismiss host desk.worker)
      { desk.shared with stopped := desk.shared.stopped || turn.panicked } middle =
        ((.ok (), current), left)) (failure : Option Failure) :
    runFrom (threadTurn host prepared failure turn.worker) shared world =
      ((.ok (failure.or turn.failure?), { current with clock := shared.clock }), left) := by
  have goes (failed : Option Failure) : runFrom (do
      dismiss host desk.worker
      modify fun after => { after with clock := shared.clock }
      return failed) { desk.shared with stopped := desk.shared.stopped || turn.panicked } middle =
        ((.ok failed, { current with clock := shared.clock }), left) := by
    rw [runFrom_bind, leaves]
    rfl
  unfold threadTurn
  rw [runFrom_reads, runFrom_modifies, runFrom_bind, runFrom_turnOf played]
  rcases ended : turn.result with (cause | cause) | done
  · simp only [Turn.panicked, ended, Bool.or_false] at goes
    refine (goes (firstFailure failure cause)).trans ?_
    rw [firstFailure_eq, Turn.failure?, ended]
  · simp only [Turn.panicked, ended, Bool.or_true] at goes
    refine (goes (firstFailure failure (.aborted (.panicked desk.worker.number)))).trans ?_
    rw [firstFailure_eq, Turn.failure?, ended, played.number]
  · simp only [Turn.panicked, ended, Bool.or_false] at goes
    refine (goes failure).trans ?_
    rw [Turn.failure?, ended, Option.or_none]

/-- Every worker has its turn, and leaves the hub in order whatever its end is. -/
theorem threadTurns_relayed (heard : host.Heard record) (failure : Option Failure)
    {workers : List Worker} (paired : ∀ worker ∈ workers, ∀ shared, Desk.Paired ⟨shared, worker⟩)
    (attendance : Attendance shared.hub (workers.map (·.recorder.epoch))) :
    ∃ turns after last, turns.map Turn.worker = workers ∧
      Relay host prepared.settings record shared world turns after last ∧
      runFrom (threadTurns host prepared failure workers) shared world =
        ((.ok (failure.or (turns.findSome? Turn.failure?)), after), last) := by
  induction workers generalizing failure shared world with
  | nil => exact ⟨[], shared, world, rfl, .done shared world, by simp; rfl⟩
  | cons worker workers ih =>
      obtain ⟨turn, desk, middle, rfl, played⟩ := Turn.exists_played heard prepared.settings
        (paired worker List.mem_cons_self { shared with clock := 0 }) ⟨_, attendance⟩ world
      obtain ⟨current, left, leaves, remain⟩ :=
        @dismiss_leaves _ { desk.shared with stopped := desk.shared.stopped || turn.panicked } host
          _ _ (played.attended attendance) middle
      obtain ⟨turns, after, last, same, relay, runs⟩ :=
        @ih { current with clock := shared.clock } left (failure.or turn.failure?)
          (fun worker member => paired worker (List.mem_cons_of_mem _ member)) remain
      refine ⟨turn :: turns, after, last, by rw [List.map_cons, same], .turn played leaves relay,
        ?_⟩
      unfold threadTurns
      rw [runFrom_bind, runFrom_threadTurn played leaves]
      refine runs.trans ?_
      rw [List.findSome?_cons, Option.or_assoc]
      cases turn.failure? <;> rfl

namespace Relay

variable {settings : Settings} {turns : List Turn} {after : Shared} {last : W}

theorem said (heard : host.Heard record)
    (relay : Relay host settings record shared world turns after last) :
    record last = record world ++ turns.flatMap Turn.said := by
  induction relay with
  | done shared world => simp
  | @turn shared current after world middle left last turn turns desk played leaves rest ih =>
      have silent := dismiss_silent heard desk.worker
        { desk.shared with stopped := desk.shared.stopped || turn.panicked } middle
      rw [leaves] at silent
      rw [ih, silent, played.heard, List.append_assoc, List.flatMap_cons]

theorem played (relay : Relay host settings record shared world turns after last) :
    ∀ turn ∈ turns, ∃ shared world desk left,
      turn.Played host settings record shared world desk left := by
  induction relay with
  | done shared world => simp
  | turn played leaves rest ih => exact List.forall_mem_cons.mpr ⟨⟨_, _, _, _, played⟩, ih⟩

end Relay

end Turns

section Enlisting

variable {prepared : Prepared} {shared : Shared} {world : W} {number : Nat} {slot : Slot}

theorem Walk.new_panics {shape : Keys.Shape} {space start valueSize : Nat} {cause : Panic}
    (failed : Keys.Walk.new shape space start valueSize 0 = .error (.panic cause)) :
    cause = .overflow ∨ cause = .allocation := by
  unfold Keys.Walk.new at failed
  split at failed
  · cases failed
  split at failed
  · cases failed
    exact .inl rfl
  split at failed
  · cases failed
    exact .inr rfl
  · cases failed

/-- There can be no worker for a slot: it has no kinds, or one of its walks cannot be made. -/
def Unmade (prepared : Prepared) (slot : Slot) (stop : Stop) : Prop :=
  (slot.kinds.isEmpty = true ∧ ∃ number, stop = .failure (.config (.idleWorker number))) ∨
    ∃ space, (space = slot.space ∨ slot.kinds.meets .pairing = true ∧ space = slot.space + 1) ∧
      Keys.Walk.new prepared.shape space slot.start prepared.settings.valueSize 0 = .error stop

theorem Unmade.panics {cause : Panic} (unmade : Unmade prepared slot (.panic cause)) :
    cause = .overflow ∨ cause = .allocation := by
  rcases unmade with ⟨_, _, impossible⟩ | ⟨_, _, failed⟩
  · cases impossible
  · exact Walk.new_panics failed

theorem enlist_cases (prepared : Prepared) (number : Nat) (slot : Slot) (shared : Shared) :
    (∃ worker : Worker, worker.recorder.epoch = shared.hub.epoch ∧
      Worker.enlist prepared.settings prepared.shape number slot.kinds slot.space slot.start
        slot.share shared = .ok (worker, { shared with
          hub := shared.hub.attach.2
          enlisted := shared.enlisted + 1 })) ∨
    ∃ stop, Worker.enlist prepared.settings prepared.shape number slot.kinds slot.space slot.start
        slot.share shared = .error stop ∧ Unmade prepared slot stop := by
  unfold Worker.enlist
  cases idle : slot.kinds.isEmpty with
  | true => exact .inr ⟨_, rfl, .inl ⟨idle, number, rfl⟩⟩
  | false =>
      rcases first : Keys.Walk.new prepared.shape slot.space slot.start
        prepared.settings.valueSize 0 with stop | walk
      · exact .inr ⟨stop, rfl, .inr ⟨_, .inl rfl, first⟩⟩
      cases pairing : slot.kinds.meets .pairing with
      | false => exact .inl ⟨_, rfl, rfl⟩
      | true =>
          rcases second : Keys.Walk.new prepared.shape (slot.space + 1) slot.start
            prepared.settings.valueSize 0 with stop | other
          · exact .inr ⟨stop, rfl, .inr ⟨_, .inr ⟨pairing, rfl⟩, second⟩⟩
          · exact .inl ⟨_, rfl, rfl⟩

/-- A worker for a slot attaches to the hub, beside those that are. -/
theorem enlistSlot_cases (prepared : Prepared) (number : Nat) (slot : Slot) {epochs : List Nat}
    (attendance : Attendance shared.hub epochs) (world : W) :
    (∃ worker after, runFrom (enlistSlot prepared number slot) shared world =
        ((.ok worker, after), world) ∧
      Seats (prepared.shape.keyLength + prepared.settings.valueSize) slot number worker ∧
      Attendance after.hub (worker.recorder.epoch :: epochs) ∧ after.stopped = shared.stopped ∧
      Hub.Level shared.hub after.hub) ∨
    ∃ stop, runFrom (enlistSlot prepared number slot) shared world =
      ((.error stop, shared), world) ∧ Unmade prepared slot stop := by
  unfold enlistSlot
  rw [runFrom_reads]
  rcases enlist_cases prepared number slot shared with
    ⟨worker, epoch, enlisted⟩ | ⟨stop, failed, unmade⟩
  · rw [enlisted]
    refine .inl ⟨worker, _, rfl, (enlist_seats enlisted).1, ?_, rfl, Hub.attach_level _⟩
    rw [epoch]
    exact attendance.attach
  · rw [failed]
    exact .inr ⟨stop, rfl, unmade⟩

/-- All workers attach to the hub before the first has its turn. -/
theorem enlistAll_cases (prepared : Prepared) (number : Nat) (slots : List Slot)
    {epochs : List Nat} (attendance : Attendance shared.hub epochs) (world : W) :
    (∃ workers after, runFrom (enlistAll prepared number slots) shared world =
        ((.ok workers, after), world) ∧
      List.Forall₂
        (fun place => Seats (prepared.shape.keyLength + prepared.settings.valueSize) place.1
          place.2) (slots.zipIdx number) workers ∧
      Attendance after.hub (workers.map (·.recorder.epoch) ++ epochs) ∧
      after.stopped = shared.stopped ∧ Hub.Level shared.hub after.hub) ∨
    ∃ stop after, runFrom (enlistAll prepared number slots) shared world =
      ((.error stop, after), world) ∧ ∃ slot ∈ slots, Unmade prepared slot stop := by
  induction slots generalizing number shared epochs with
  | nil => exact .inl ⟨[], shared, rfl, .nil, attendance, rfl, .refl _⟩
  | cons slot slots ih =>
      unfold enlistAll
      rw [runFrom_bind]
      rcases enlistSlot_cases prepared number slot attendance world with
        ⟨worker, middle, runs, seats, attached, same, level⟩ | ⟨stop, runs, unmade⟩
      · rw [runs]
        dsimp only
        rw [runFrom_bind]
        rcases ih (number + 1) attached with
          ⟨workers, after, run, seated, all, still, further⟩ |
          ⟨stop, after, run, other, member, unmade⟩
        · rw [run]
          refine .inl ⟨worker :: workers, after, rfl, .cons seats seated, ?_, still.trans same,
            level.trans further⟩
          exact all.perm (List.perm_middle)
        · rw [run]
          exact .inr ⟨stop, after, rfl, other, List.mem_cons_of_mem _ member, unmade⟩
      · rw [runs]
        exact .inr ⟨stop, shared, rfl, slot, List.mem_cons_self, unmade⟩

end Enlisting

end StoreBench.Run
