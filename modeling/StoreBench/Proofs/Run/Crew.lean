import StoreBench.Proofs.Run.Lifecycle
import StoreBench.Proofs.Run.Standing

/-! Workers that share a run and take their steps in any order.

Nothing is known of the order: any worker may be the next to take a step, and the run may be
interrupted at any time.  The counters of the run agree with its workers at all times, and so those
that make passes until all are through with their own do wait for each other.
-/

namespace StoreBench.Run

open StoreBench.Engine (Exchange)

variable {W : Type}

/-- A worker of a crew, with a clock of its own. -/
structure Member where
  worker : Worker
  clock : Nat
  made : Nat
  place : Place

/-- Workers that share the state of a run. -/
structure Crew (W : Type) where
  shared : Shared
  members : List Member
  world : W

/-- What happens next: a worker takes a step, or the run is interrupted. -/
inductive Beat where
  | step (index : Nat)
  | interrupt
  deriving DecidableEq

namespace Crew

/-- Every worker is about to start. -/
def ready (workers : List Worker) (shared : Shared) (world : W) : Crew W :=
  { shared, members := workers.map fun worker => ⟨worker, 0, 0, .starting⟩, world }

/-- The member at its desk, by its own clock. -/
def standing (crew : Crew W) (member : Member) : Standing W :=
  { made := member.made
    place := member.place
    desk := ⟨{ crew.shared with clock := member.clock }, member.worker⟩
    world := crew.world }

/-- The crew after one of its members has gone on. -/
def resumed (crew : Crew W) (index : Nat) (now : Standing W) : Crew W :=
  { shared := { now.desk.shared with clock := crew.shared.clock }
    members := crew.members.set index
      ⟨now.desk.worker, now.desk.shared.clock, now.made, now.place⟩
    world := now.world }

def beat (host : Host (StateM W)) (settings : Settings) (crew : Crew W) : Beat → Crew W
  | .step index =>
    match crew.members[index]? with
    | some member => crew.resumed index ((crew.standing member).step host settings)
    | none => crew
  | .interrupt => { crew with shared := { crew.shared with stopped := true } }

def run (host : Host (StateM W)) (settings : Settings) (crew : Crew W) (beats : List Beat) :
    Crew W :=
  beats.foldl (beat host settings) crew

/-- The counters of a run agree with its workers, and unless the run is stopped, nobody is through
before all have made their passes. -/
structure Sound (settings : Settings) (crew : Crew W) : Prop where
  finished : crew.shared.finished =
    crew.members.countP fun member => settings.passes ≤ member.made
  enlisted : crew.shared.enlisted = crew.members.countP (·.place.present)
  waits : crew.shared.stopped = false → ∀ member ∈ crew.members, member.place.through = true →
    ∀ other ∈ crew.members, settings.passes ≤ other.made

variable {host : Host (StateM W)} {settings : Settings} {crew : Crew W}

theorem Sound.interrupt (sound : crew.Sound settings) :
    (crew.beat host settings .interrupt).Sound settings where
  finished := sound.finished
  enlisted := sound.enlisted
  waits := nofun

theorem Sound.all_present (sound : crew.Sound settings)
    (nobody : ∀ member ∈ crew.members, member.place.through = false) :
    crew.shared.enlisted = crew.members.length := by
  rw [sound.enlisted]
  exact List.countP_eq_length.mpr fun member among => Place.present_of_inside (nobody member among)

theorem Sound.all_made (sound : crew.Sound settings)
    (nobody : ∀ member ∈ crew.members, member.place.through = false)
    (enough : crew.shared.enlisted ≤ crew.shared.finished) :
    ∀ member ∈ crew.members, settings.passes ≤ member.made := by
  rw [sound.all_present nobody, sound.finished] at enough
  simpa using List.countP_eq_length.mp (Nat.le_antisymm List.countP_le_length enough)

theorem Sound.another_iff (sound : crew.Sound settings) (continuous : settings.continuous = true)
    (running : crew.shared.stopped = false) {member : Member} (among : member ∈ crew.members) :
    anotherPass settings crew.shared member.made = true ↔
      ∃ other ∈ crew.members, other.made < settings.passes := by
  simp only [anotherPass, continuous, Bool.true_and, Bool.or_eq_true, decide_eq_true_eq]
  constructor
  · rintro (few | behind)
    · exact ⟨member, among, few⟩
    · by_contra all
      have all : ∀ other ∈ crew.members, settings.passes ≤ other.made := by simpa using all
      have whole : crew.shared.finished = crew.members.length := by
        rw [sound.finished]
        exact List.countP_eq_length.mpr (by simpa using all)
      have bound : crew.shared.enlisted ≤ crew.members.length := by
        rw [sound.enlisted]
        exact List.countP_le_length
      omega
  · rintro ⟨other, inside, few⟩
    refine .inr (Nat.lt_of_not_le fun enough => ?_)
    by_cases earlier : ∃ first ∈ crew.members, first.place.through = true
    · obtain ⟨first, within, through⟩ := earlier
      have enough := sound.waits running first within through other inside
      omega
    · have enough := sound.all_made (by simpa using earlier) enough other inside
      omega

theorem countP_set_add {members : List Member} {index : Nat} {member : Member} (other : Member)
    (found : members[index]? = some member) (p : Member → Bool) :
    (members.set index other).countP p + (p member).toNat =
      members.countP p + (p other).toNat := by
  obtain ⟨inside, rfl⟩ := List.getElem?_eq_some_iff.mp found
  rw [List.countP_set inside]
  cases mine : p members[index] with
  | false => cases p other <;> simp
  | true =>
      have some : 0 < members.countP p :=
        List.countP_pos_iff.mpr ⟨members[index], List.getElem_mem inside, mine⟩
      cases p other <;> simp <;> omega

theorem Sound.goes_on (sound : crew.Sound settings) (continuous : settings.continuous = true)
    {index : Nat} {member : Member} (found : crew.members[index]? = some member)
    {now : Standing W} (takes : Standing.Takes settings (crew.standing member) now) :
    (crew.resumed index now).Sound settings := by
  let other : Member := ⟨now.desk.worker, now.desk.shared.clock, now.made, now.place⟩
  have among := List.mem_of_getElem? found
  constructor
  case finished =>
    have counted : (crew.members.set index other).countP (settings.passes ≤ ·.made) +
        (decide (settings.passes ≤ member.made)).toNat =
        crew.members.countP (settings.passes ≤ ·.made) +
          (decide (settings.passes ≤ now.made)).toNat := countP_set_add other found _
    have step : now.desk.shared.finished + (decide (settings.passes ≤ member.made)).toNat =
        crew.shared.finished + (decide (settings.passes ≤ now.made)).toNat := takes.finished
    rw [sound.finished] at step
    exact Nat.add_right_cancel (step.trans counted.symm)
  case enlisted =>
    have counted : (crew.members.set index other).countP (·.place.present) +
        member.place.present.toNat =
        crew.members.countP (·.place.present) + now.place.present.toNat :=
      countP_set_add other found _
    have step : now.desk.shared.enlisted + member.place.present.toNat =
        crew.shared.enlisted + now.place.present.toNat := takes.enlisted fun present =>
      sound.enlisted ▸ List.countP_pos_iff.mpr ⟨member, among, present⟩
    rw [sound.enlisted] at step
    exact Nat.add_right_cancel (step.trans counted.symm)
  case waits =>
    intro running some within out
    have all : ∀ member ∈ crew.members, settings.passes ≤ member.made := by
      by_cases earlier : ∃ member ∈ crew.members, member.place.through = true
      · obtain ⟨first, inside, through⟩ := earlier
        exact sound.waits (takes.running running) first inside through
      · have nobody : ∀ member ∈ crew.members, member.place.through = false := by
          simpa using earlier
        refine sound.all_made nobody ?_
        rcases List.mem_or_eq_of_mem_set within with inside | rfl
        · rw [nobody some inside] at out
          cases out
        · rcases takes.through out with through | stopped | last
          · rw [standing, nobody member among] at through
            cases through
          · exact absurd (stopped.symm.trans running) (by decide)
          · unfold anotherPass at last
            simp [continuous] at last
            exact last.2
    intro last inside
    rcases List.mem_or_eq_of_mem_set inside with inside | rfl
    · exact all last inside
    · exact (all member among).trans takes.made_le

theorem Sound.beat (sound : crew.Sound settings) (continuous : settings.continuous = true)
    (next : Beat) : (crew.beat host settings next).Sound settings := by
  cases next with
  | interrupt => exact sound.interrupt
  | step index =>
      unfold Crew.beat
      dsimp only
      split
      · next member found => exact sound.goes_on continuous found (Standing.step_takes ..)
      · exact sound

theorem Sound.run (sound : crew.Sound settings) (continuous : settings.continuous = true)
    (beats : List Beat) : (crew.run host settings beats).Sound settings := by
  induction beats generalizing crew with
  | nil => exact sound
  | cons next beats ih => exact ih (sound.beat continuous next)

theorem members_beat (next : Beat) :
    (crew.beat host settings next).members.length = crew.members.length := by
  cases next with
  | interrupt => rfl
  | step index =>
      unfold beat
      dsimp only
      split
      · exact List.length_set
      · rfl

theorem members_run (beats : List Beat) :
    (crew.run host settings beats).members.length = crew.members.length := by
  induction beats generalizing crew with
  | nil => rfl
  | cons next beats ih => exact ih.trans (members_beat next)

/-- Whether a worker completes the last pass of its own with this beat. -/
def completes (settings : Settings) (crew : Crew W) : Beat → Bool
  | .step index =>
    crew.members[index]?.any fun member => member.place.swept && member.made + 1 == settings.passes
  | .interrupt => false

theorem finished_beat (next : Beat) :
    (crew.beat host settings next).shared.finished =
      crew.shared.finished + (crew.completes settings next).toNat := by
  cases next with
  | interrupt => rfl
  | step index =>
      unfold beat completes
      dsimp only
      split
      · next member found =>
          rw [found]
          exact (Standing.step_takes host settings (crew.standing member)).adds
      · next missing =>
          rw [missing]
          rfl

/-- What a worker adds to the finished ones along some beats. -/
def additions (host : Host (StateM W)) (settings : Settings) (index : Nat) :
    Crew W → List Beat → Nat
  | _, [] => 0
  | crew, next :: beats =>
    let after := crew.beat host settings next
    (if next = .step index then after.shared.finished - crew.shared.finished else 0) +
      additions host settings index after beats

theorem additions_beat {index : Nat} {member : Member} (found : crew.members[index]? = some member)
    (next : Beat) :
    ∃ later, (crew.beat host settings next).members[index]? = some later ∧
      (if next = .step index then
        (crew.beat host settings next).shared.finished - crew.shared.finished else 0) +
        (decide (settings.passes ≤ member.made)).toNat =
      (decide (settings.passes ≤ later.made)).toNat := by
  cases next with
  | interrupt => exact ⟨member, found, by simp⟩
  | step other =>
      by_cases same : other = index
      · subst same
        have takes := Standing.step_takes host settings (crew.standing member)
        have gone : crew.beat host settings (.step other) =
            crew.resumed other ((crew.standing member).step host settings) := by
          simp [beat, found]
        obtain ⟨inside, _⟩ := List.getElem?_eq_some_iff.mp found
        rw [gone, if_pos rfl]
        refine ⟨_, List.getElem?_set_self inside, ?_⟩
        have step : ((crew.standing member).step host settings).desk.shared.finished +
            (decide (settings.passes ≤ member.made)).toNat = crew.shared.finished +
            (decide (settings.passes ≤ ((crew.standing member).step host settings).made)).toNat :=
          takes.finished
        have more : crew.shared.finished ≤
            ((crew.standing member).step host settings).desk.shared.finished := by
          rw [takes.adds]
          exact Nat.le_add_right _ _
        dsimp only [resumed]
        omega
      · refine ⟨member, ?_, by simp [same]⟩
        unfold beat
        dsimp only
        split
        · exact (List.getElem?_set_ne same).trans found
        · exact found

theorem additions_run {index : Nat} {member : Member} (found : crew.members[index]? = some member)
    (beats : List Beat) :
    ∃ later, (crew.run host settings beats).members[index]? = some later ∧
      additions host settings index crew beats + (decide (settings.passes ≤ member.made)).toNat =
      (decide (settings.passes ≤ later.made)).toNat := by
  induction beats generalizing crew member with
  | nil => exact ⟨member, found, Nat.zero_add _⟩
  | cons next beats ih =>
      obtain ⟨middle, stays, first⟩ := @additions_beat _ host settings crew index member found next
      obtain ⟨later, ends, rest⟩ := ih stays
      refine ⟨later, ends, ?_⟩
      unfold additions
      dsimp only
      omega

theorem run_append (first rest : List Beat) :
    crew.run host settings (first ++ rest) =
      (crew.run host settings first).run host settings rest := by
  rw [run, List.foldl_append, run, run]

theorem exists_run {index : Nat} {member : Member} (found : crew.members[index]? = some member)
    {later : Standing W} (reaches : Reaches host settings (crew.standing member) later) :
    ∃ beats, crew.run host settings beats = crew.resumed index later := by
  obtain ⟨inside, rfl⟩ := List.getElem?_eq_some_iff.mp found
  induction reaches with
  | refl =>
      have same : crew.members.set index crew.members[index] = crew.members :=
        List.set_getElem_self inside
      exact ⟨[], congrArg (fun members => { crew with members }) same.symm⟩
  | @tail middle later _ step ih =>
      obtain ⟨beats, there⟩ := ih
      refine ⟨beats ++ [.step index], ?_⟩
      have mine : (crew.resumed index middle).members[index]? =
          some ⟨middle.desk.worker, middle.desk.shared.clock, middle.made, middle.place⟩ :=
        List.getElem?_set_self inside
      rw [run_append, there, run, List.foldl_cons, List.foldl_nil, beat]
      rw [mine, ← step]
      simp [resumed, standing]

end Crew

section Making

variable {host : Host (StateM W)} {prepared : Prepared} {shared after : Shared}
  {slots : List Slot} {workers : List Worker} {world left : W}

theorem enlistAll_counts {number : Nat}
    (made : runFrom (enlistAll prepared number slots) shared world =
      ((.ok workers, after), left)) :
    workers.length = slots.length ∧ after.enlisted = shared.enlisted + slots.length ∧
      after.finished = shared.finished := by
  induction slots generalizing number shared world workers with
  | nil =>
      cases made
      exact ⟨rfl, rfl, rfl⟩
  | cons slot slots ih =>
      unfold enlistAll enlistSlot at made
      rw [runFrom_bind, runFrom_reads] at made
      rcases enlist_cases prepared number slot shared with
        ⟨worker, _, enlisted⟩ | ⟨stop, failed, _⟩
      · rw [enlisted] at made
        change runFrom (do
          let workers ← enlistAll prepared (number + 1) slots
          return worker :: workers) _ world = _ at made
        rw [runFrom_bind] at made
        rcases others : runFrom (enlistAll prepared (number + 1) slots) { shared with
          hub := shared.hub.attach.2
          enlisted := shared.enlisted + 1 } world with ⟨⟨stop | workers, middle⟩, last⟩
        · rw [others] at made
          cases made
        · rw [others] at made
          cases made
          obtain ⟨count, enlisted, finished⟩ := ih others
          refine ⟨congrArg (· + 1) count, ?_, finished⟩
          rw [enlisted, List.length_cons]
          dsimp only
          omega
      · rw [failed] at made
        cases made

theorem Crew.ready_sound (repeats : 0 < prepared.settings.passes) (enlisted : shared.enlisted = 0)
    (finished : shared.finished = 0)
    (made : runFrom (enlistAll prepared 0 slots) shared world = ((.ok workers, after), left)) :
    (Crew.ready workers after left).Sound prepared.settings := by
  obtain ⟨count, enlists, finishes⟩ := enlistAll_counts made
  have short : ¬ prepared.settings.passes ≤ 0 := by omega
  constructor
  case finished => simp [ready, finishes, finished, List.countP_map, Function.comp_def, short]
  case enlisted =>
    simp [ready, enlists, enlisted, count, List.countP_map, Function.comp_def, Place.present]
  case waits => simp [ready, Place.through]

end Making

section Relays

variable {host : Host (StateM W)} {settings : Settings} {record : W → List Exchange}
  {shared after : Shared} {world left : W} {turns : List Turn}

theorem Relay.exists_run (relay : Relay host settings record shared world turns after left)
    {crew : Crew W} (within : crew.shared = shared) (around : crew.world = world)
    {indices : List Nat} (distinct : indices.Nodup)
    (starts : List.Forall₂ (fun index (turn : Turn) =>
      crew.members[index]? = some ⟨turn.worker, 0, 0, .starting⟩) indices turns) :
    ∃ beats, (crew.run host settings beats).shared = after ∧
      (crew.run host settings beats).world = left := by
  induction relay generalizing crew indices with
  | done => exact ⟨[], within, around⟩
  | @turn shared current after world middle left last turn turns desk played leaves rest ih =>
      subst within around
      rcases starts with _ | ⟨here, there⟩
      next index indices =>
      obtain ⟨apart, distinct⟩ := List.nodup_cons.mp distinct
      obtain ⟨total, reaches⟩ := played.departs leaves
      obtain ⟨first, plays⟩ := Crew.exists_run here reaches
      have later : List.Forall₂ (fun index (turn : Turn) =>
          (crew.run host settings first).members[index]? =
            some ⟨turn.worker, 0, 0, .starting⟩) indices turns := by
        rw [plays]
        refine ((List.forall₂_and_left _ _).mpr ⟨fun other member => ?_, there⟩).imp
          fun other turn starts => (List.getElem?_set_ne starts.1).trans starts.2
        rintro rfl
        exact apart member
      obtain ⟨beats, ends⟩ := ih (by rw [plays]; rfl) (by rw [plays]; rfl) distinct later
      refine ⟨first ++ beats, ?_⟩
      rw [Crew.run_append]
      exact ends

theorem turns_of_order {workers : List Worker} {order : List Nat}
    (inside : ∀ index ∈ order, index < workers.length)
    (turned : turns.map Turn.worker = order.filterMap (workers[·]?)) :
    List.Forall₂ (fun index (turn : Turn) => workers[index]? = some turn.worker) order turns := by
  induction order generalizing turns with
  | nil =>
      obtain rfl := List.map_eq_nil_iff.mp turned
      exact .nil
  | cons index order ih =>
      obtain ⟨here, inside⟩ := List.forall_mem_cons.mp inside
      have found : workers[index]? = some workers[index] := List.getElem?_eq_getElem here
      rw [List.filterMap_cons, found] at turned
      obtain ⟨turn, turns, rfl, same, turned⟩ := List.map_eq_cons_iff.mp turned
      exact .cons (by rw [found, same]) (ih inside turned)

theorem threadTurns_exists_run {prepared : Prepared} {slots : List Slot} {workers : List Worker}
    (heard : host.Heard record) (attendance : Latency.Attendance shared.hub [])
    (made : runFrom (enlistAll prepared 0 slots) shared world = ((.ok workers, after), left))
    {order : List Nat} (all : order.Perm (List.range slots.length)) (around : W) :
    ∃ beats failure,
      let crew := (Crew.ready workers after around).run host prepared.settings beats
      runFrom (threadTurns host prepared none (order.filterMap (workers[·]?))) after around =
        ((.ok failure, crew.shared), crew.world) := by
  rcases enlistAll_cases prepared 0 slots attendance world with
    ⟨others, middle, runs, seated, attached, _⟩ | ⟨stop, middle, runs, _⟩
  · cases made.symm.trans runs
    rw [List.append_nil] at attached
    have count : workers.length = slots.length := (enlistAll_counts made).1
    have chosen : (order.filterMap (workers[·]?)).Perm workers :=
      perm_filterMap_getElem? (count.symm ▸ all)
    obtain ⟨turns, current, last, turned, relay, runs⟩ := @threadTurns_relayed _ host record
      prepared after around heard none _ (paired_of (forall₂_filterMap_getElem? seated order))
      (attached.perm (chosen.symm.map _))
    have inside : ∀ index ∈ order, index < workers.length := fun index member => by
      rw [count]
      exact List.mem_range.mp (all.mem_iff.mp member)
    have starts : List.Forall₂ (fun index (turn : Turn) =>
        (Crew.ready workers after around).members[index]? =
          some ⟨turn.worker, 0, 0, .starting⟩) order turns :=
      (turns_of_order inside turned).imp fun index turn found => by simp [Crew.ready, found]
    obtain ⟨beats, same, there⟩ :=
      relay.exists_run rfl rfl (all.nodup_iff.mpr List.nodup_range) starts
    refine ⟨beats, none.or (turns.findSome? Turn.failure?), runs.trans ?_⟩
    rw [same, there]
  · cases made.symm.trans runs

end Relays

section Waiting

variable {prepared : Prepared} {shared after : Shared} {slots : List Slot} {workers : List Worker}
  {world left : W}

/-- Workers that were all made before the first of them starts, and that go on until all of them
have made their passes, wait for each other in whatever order they take their steps: unless the run
is stopped, or a worker has failed and is about to stop it, nobody is out of its passes before
everybody has made their own, and who asks for another pass gets it until then.  Each of them adds
itself once to the finished ones, with the last pass of its own, and those that exist are those not
yet gone. -/
theorem continuous_crew_waits (host : Host (StateM W))
    (continuous : prepared.settings.continuous = true) (repeats : 0 < prepared.settings.passes)
    (enlisted : shared.enlisted = 0) (finished : shared.finished = 0)
    (made : runFrom (enlistAll prepared 0 slots) shared world = ((.ok workers, after), left))
    (beats : List Beat) :
    let ready := Crew.ready workers after left
    let crew := ready.run host prepared.settings beats
    crew.members.length = slots.length ∧
    (crew.shared.stopped = false → ∀ member ∈ crew.members, member.place.through = true →
      ∀ other ∈ crew.members, prepared.settings.passes ≤ other.made) ∧
    (∀ index member, crew.members[index]? = some member →
      ready.additions host prepared.settings index beats =
        if prepared.settings.passes ≤ member.made then 1 else 0) ∧
    (crew.shared.stopped = false → ∀ member ∈ crew.members,
      (anotherPass prepared.settings crew.shared member.made = true ↔
        ∃ other ∈ crew.members, other.made < prepared.settings.passes)) ∧
    (∀ next, (crew.beat host prepared.settings next).shared.finished =
      crew.shared.finished + (crew.completes prepared.settings next).toNat) ∧
    crew.shared.finished ≤ slots.length ∧
    crew.shared.enlisted = crew.members.countP (·.place.present) := by
  intro ready crew
  have begins : ready.Sound prepared.settings :=
    Crew.ready_sound repeats enlisted finished made
  have sound : crew.Sound prepared.settings := begins.run continuous beats
  have length : crew.members.length = slots.length :=
    (Crew.members_run beats).trans ((List.length_map _).trans (enlistAll_counts made).1)
  refine ⟨length, sound.waits, ?_, fun running _ => sound.another_iff continuous running,
    Crew.finished_beat, ?_, sound.enlisted⟩
  · intro index member found
    obtain ⟨inside, _⟩ := List.getElem?_eq_some_iff.mp found
    rw [Crew.members_run] at inside
    have starts : ready.members[index]? = some ready.members[index] :=
      List.getElem?_eq_getElem inside
    have fresh : ready.members[index].made = 0 := by simp [ready, Crew.ready]
    obtain ⟨later, ends, adds⟩ := @Crew.additions_run _ host prepared.settings ready index _ starts
      beats
    cases ends.symm.trans found
    have short : ¬ prepared.settings.passes ≤ 0 := by omega
    rw [fresh, decide_eq_false short] at adds
    refine adds.trans ?_
    split
    · next enough => rw [decide_eq_true enough]; rfl
    · next few => rw [decide_eq_false few]; rfl
  · rw [sound.finished, ← length]
    exact List.countP_le_length

/-- Two readers of which the first has time for more passes than its own. -/
def patient : Settings :=
  { browsing with continuous := true }

def overtaking : List Beat :=
  List.replicate 9 (.step 0) ++ List.replicate 5 (.step 1) ++ [.step 0]

/-- An engine that has a record at every step of the cursor. -/
def obliging : Host (StateM (List Exchange)) :=
  Host.scribe fun _ _ => ⟨.ok .empty, 3, false⟩

theorem continuous_crew_waits_patient : ∃ prepared workers after,
    let crew := (Crew.ready workers after []).run obliging patient overtaking
    prepare patient 0 = .ok prepared ∧
      runFrom (enlistAll prepared 0 (prepared.plan.slots patient)) prepared.shared
        ([] : List Exchange) = ((.ok workers, after), []) ∧
      crew.shared.stopped = false ∧
      (∃ member ∈ crew.members, member.place.through = true ∧ member.made = 2) ∧
      (∀ other ∈ crew.members, 1 ≤ other.made) ∧ crew.shared.finished ≤ 2 := by
  have checked : (match prepare patient 0 with
      | .error _ => false
      | .ok prepared =>
        let enlisted := runFrom (enlistAll prepared 0 (prepared.plan.slots patient))
          prepared.shared ([] : List Exchange)
        let crew := (Crew.ready (enlisted.1.1.toOption.getD []) enlisted.1.2 enlisted.2).run
          obliging patient overtaking
        decide (enlisted.1.1.toOption.isSome = true ∧ enlisted.2 = [] ∧
          (prepared.plan.slots patient).length = 2 ∧ crew.shared.stopped = false ∧
          (crew.members.map fun member => (member.place.through, member.made)) =
            [(true, 2), (false, 1)])) = true := by
    decide +kernel
  rcases accepted : prepare patient 0 with cause | prepared
  · rw [accepted] at checked
    cases checked
  rw [accepted] at checked
  obtain ⟨enlisted, silent, slots, running, members⟩ := of_decide_eq_true checked
  rcases made : runFrom (enlistAll prepared 0 (prepared.plan.slots patient)) prepared.shared
    ([] : List Exchange) with ⟨⟨stop | workers, after⟩, said⟩
  · rw [made] at enlisted
    cases enlisted
  · rw [made] at silent running members
    obtain rfl : said = [] := silent
    simp only [Except.toOption, Option.getD_some] at running members
    obtain ⟨_, settings, _, _, _, shared⟩ := prepare_eq accepted
    have waits := @continuous_crew_waits _ prepared prepared.shared after
      (prepared.plan.slots patient) workers [] [] obliging
      (by rw [settings]; rfl) (by rw [settings]; decide) (by rw [shared]; rfl)
      (by rw [shared]; rfl) made overtaking
    dsimp only at waits
    rw [settings, slots] at waits
    obtain ⟨_, waits, _, _, _, bounded, _⟩ := waits
    obtain ⟨first, rest, both, ahead, _⟩ := List.map_eq_cons_iff.mp members
    obtain ⟨through, twice⟩ := Prod.mk.inj ahead
    have member : first ∈ ((Crew.ready workers after []).run obliging patient
        overtaking).members := by
      rw [both]
      exact List.mem_cons_self
    exact ⟨prepared, workers, after, rfl, made, running, ⟨first, member, through, twice⟩,
      waits running first member through, bounded⟩

end Waiting

end StoreBench.Run
