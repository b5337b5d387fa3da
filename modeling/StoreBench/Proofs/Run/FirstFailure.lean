import StoreBench.Proofs.Run.Assignment
import StoreBench.Proofs.Run.Lifecycle
import StoreBench.Proofs.Run.Whole
import StoreBench.Proofs.Run.Winding

/-! The first failure.

With several workers, the first of them that fails decides what becomes of the run, and if none
does, an interrupt before the engine is closed.  Closing comes after that decision, so an interrupt
that arrives only then is not noticed.
-/

namespace StoreBench.Run

open StoreBench.Engine (Answer Call Exchange Reply)
open StoreBench.Latency (Attendance Emission Hub Summary)

variable {W : Type} {host : Host (StateM W)} {record : W → List Exchange} {settings : Settings}
  {prepared : Prepared} {shared : Shared} {world : W} {name : String} {ready : W → Prop}

section Serving

theorem Serves.reporting (serves : Serves host settings name ready) :
    Reporting host (reportNames settings name) (fun _ => False) ready where
  say := serves.say
  mirror := serves.mirror
  create nameOf wanted item world good := by
    obtain ⟨start, given, rfl⟩ := Option.map_eq_some_iff.mp wanted
    obtain ⟨created, kept⟩ := serves.create start given item world good
    exact ⟨kept, by simp [created]⟩
  write nameOf wanted item text world good := by
    obtain ⟨start, given, rfl⟩ := Option.map_eq_some_iff.mp wanted
    obtain ⟨written, kept⟩ := serves.write start given item text world good
    exact ⟨kept, by simp [written]⟩

theorem Serves.dismiss (serves : Serves host settings name ready) (worker : Worker)
    (shared : Shared) (good : ready world) :
    ready (runFrom (dismiss host worker) shared world).2 := by
  rw [runFrom_dismiss, runFrom_withHub]
  rcases (worker.recorder.drop shared.hub shared.clock).1 with cause | _ | emission
  · exact good
  · exact good
  · exact serves.reporting.publish emission good

theorem Serves.options (serves : Serves host settings name ready) (options : List String)
    (good : ready world) : ready (runFrom (applyEngineOptions host options) shared world).2 := by
  induction options generalizing shared world with
  | nil => exact good
  | cons option options ih =>
      have kept := serves.engine (.option option) world good
      unfold applyEngineOptions
      rw [runFrom_bind, runFrom_demandCall]
      rcases (host.engine (.option option) world).1.reply with pair | cause | reason
      · exact ih kept
      · exact kept
      · exact kept

theorem Serves.played (serves : Serves host settings name ready) {turn : Turn} {desk : Desk}
    {left : W} (played : turn.Played host settings record shared world desk left)
    (good : ready world) : ready left :=
  @Turn.Played.keeps _ _ _ _ _ _ _ _ _ played (fun now => ready now.2)
    (fun before after effect good => by
      cases effect with
      | called call own => exact serves.engine call _ good
      | published emission => exact serves.reporting.publish emission good
      | _ => exact good) good

theorem Serves.relay (serves : Serves host settings name ready) {turns : List Turn}
    {after : Shared} {last : W}
    (relay : Relay host settings record shared world turns after last) (good : ready world) :
    ready last := by
  induction relay with
  | done shared world => exact good
  | @turn shared current after world middle left last turn turns desk played leaves rest ih =>
      have gone := serves.dismiss desk.worker
        { desk.shared with stopped := desk.shared.stopped || turn.panicked }
        (serves.played played good)
      rw [leaves] at gone
      exact ih gone

end Serving

/-- All workers on threads had their turns, in this order, after an opening without brackets. -/
structure Threaded (host : Host (StateM W)) (settings : Settings) (record : W → List Exchange)
    (order : List Nat) (before : List Exchange) (stopped : Bool) (opening : List Exchange)
    (played : List Turn) (after : Shared) : Prop where
  apart : ∀ exchange ∈ opening, exchange.aside = true
  numbers : played.map (fun turn => turn.worker.number) = order
  relayed : ∃ enlisted start last, record start = before ++ opening ∧
    enlisted.stopped = (stopped || opening.any Exchange.interrupted) ∧
    Relay host settings record enlisted start played after last

/-- What the turns of the workers make of a run: the first failure is that of the run, and no worker
after it makes a call of a bracket.  Without a failure it matters whether the run was stopped, by
then, from the start, by an interrupt, or by a broken thread. -/
inductive Settles (settings : Settings) (broken stopped : Bool) (opening : List Exchange)
    (played : List Turn) (closing : Reply) : Except Stop (List Summary) → Prop where
  | failed {earlier later : List Turn} {turn : Turn} {cause : Failure}
      (order : played = earlier ++ turn :: later)
      (sound : ∀ before ∈ earlier, before.failure? = none)
      (fails : turn.failure? = some cause)
      (quiet : ∀ next ∈ later, ∀ exchange ∈ next.said, exchange.aside = true) :
      Settles settings broken stopped opening played closing (settled (.error cause) closing)
  | interrupted (sound : ∀ turn ∈ played, turn.failure? = none)
      (flag : (stopped || (opening ++ played.flatMap Turn.said).any Exchange.interrupted ||
        broken) = true)
      (quiet : stopped = true → ∀ turn ∈ played, ∀ exchange ∈ turn.said, exchange.aside = true)
      (winds : WindsDown settings played (opening ++ played.flatMap Turn.said)) :
      Settles settings broken stopped opening played closing
        (settled (.error (.aborted .interrupted)) closing)
  | through {summaries : List Summary} (sound : ∀ turn ∈ played, turn.failure? = none)
      (flag : (stopped || (opening ++ played.flatMap Turn.said).any Exchange.interrupted ||
        broken) = false) :
      Settles settings broken stopped opening played closing (settled (.ok summaries) closing)

theorem Settles.unstopped {broken stopped : Bool} {opening : List Exchange} {played : List Turn}
    {closing : Reply} {result : Except Stop (List Summary)} {summaries : List Summary}
    (settles : Settles settings broken stopped opening played closing result)
    (well : result = .ok summaries) :
    (stopped || (opening ++ played.flatMap Turn.said).any Exchange.interrupted || broken) =
      false := by
  have fails (cause : Failure) : settled (.error cause) closing ≠ .ok summaries := by
    cases closing <;> simp [settled, Except.mapError]
  cases settles with
  | failed order sound fail quiet => exact absurd well (fails _)
  | interrupted sound flag quiet winds => exact absurd well (fails _)
  | through sound flag => exact flag

namespace Threaded

variable {order : List Nat} {before opening : List Exchange} {stopped : Bool} {played : List Turn}
  {after : Shared}

theorem extend {earlier : List Exchange}
    (threaded : Threaded host settings record order (before ++ earlier)
      (stopped || earlier.any Exchange.interrupted) opening played after)
    (aside : ∀ exchange ∈ earlier, exchange.aside = true) :
    Threaded host settings record order before stopped (earlier ++ opening) played after where
  apart := List.forall_mem_append.mpr ⟨aside, threaded.apart⟩
  numbers := threaded.numbers
  relayed := by
    obtain ⟨enlisted, start, last, heard, flag, relay⟩ := threaded.relayed
    refine ⟨enlisted, start, last, ?_, ?_, relay⟩
    · rw [heard, List.append_assoc]
    · rw [flag, List.any_append, Bool.or_assoc]

theorem stops (heard : host.Heard record)
    (threaded : Threaded host settings record order before stopped opening played after) :
    after.stopped = (stopped || (opening ++ played.flatMap Turn.said).any Exchange.interrupted ||
      played.any (·.failure?.isSome)) := by
  obtain ⟨enlisted, start, last, _, flag, relay⟩ := threaded.relayed
  rw [relay.stops heard, flag, List.any_append, Bool.or_assoc stopped]

theorem settles (heard : host.Heard record)
    (threaded : Threaded host settings record order before stopped opening played after)
    (broken : Bool) (closing : Reply) (summaries : List Summary) :
    Settles settings broken stopped opening played closing (settled
      (outcomeOf (played.findSome? Turn.failure?) (after.stopped || broken) summaries)
      closing) := by
  obtain ⟨enlisted, start, last, _, flag, relay⟩ := threaded.relayed
  rcases found : played.findSome? Turn.failure? with _ | cause
  · have sound := List.findSome?_eq_none_iff.mp found
    have stops := threaded.stops heard
    have none : played.any (·.failure?.isSome) = false := by
      simpa [List.any_eq_false] using sound
    rw [none, Bool.or_false] at stops
    cases set : after.stopped || broken with
    | false =>
        refine .through sound ?_
        rw [← stops, set]
    | true =>
        refine .interrupted sound ?_ ?_ ?_
        · rw [← stops, set]
        · intro before
          refine relay.quiet heard ?_
          rw [flag, before, Bool.true_or]
        · refine (WindsDown.aside played threaded.apart).append (relay.windsDown heard sound) ?_
          intro interrupt exchange member
          obtain ⟨turn, among, said⟩ := List.mem_flatMap.mp member
          refine relay.quiet heard ?_ turn among exchange said
          rw [flag, interrupt, Bool.or_true]
  · obtain ⟨earlier, turn, later, split, fails, sound⟩ := List.findSome?_eq_some_iff.mp found
    rw [split] at relay
    exact .failed split sound fails (relay.quiet_after heard fails)

end Threaded

section Opened

variable {turns : Turns}

/-- What is between opening and closing the engine, if the engine takes its options. -/
def Decided (host : Host (StateM W)) (prepared : Prepared) (record : W → List Exchange)
    (turns : Turns) (before : List Exchange) (stopped : Bool) (made : List Exchange)
    (result : Except Stop (List Summary)) (after : Shared) : Prop :=
  (∃ slot ∈ prepared.plan.slots prepared.settings, ∃ stop, result = .error stop ∧
    Unmade prepared slot stop ∧ ∀ exchange ∈ made, exchange.aside = true) ∨
  ∃ opening played following, made = opening ++ played.flatMap Turn.said ∧
    Threaded host prepared.settings record turns.order before stopped opening played following ∧
    after.stopped = (following.stopped ||
      turns.broken.any (· < (prepared.plan.slots prepared.settings).length)) ∧
    ∃ summaries, result =
      (outcomeOf (played.findSome? Turn.failure?) after.stopped summaries).mapError .failure

theorem Decided.extend {before earlier made : List Exchange} {stopped : Bool}
    {result : Except Stop (List Summary)} {after : Shared}
    (decided : Decided host prepared record turns (before ++ earlier)
      (stopped || earlier.any Exchange.interrupted) made result after)
    (aside : ∀ exchange ∈ earlier, exchange.aside = true) :
    Decided host prepared record turns before stopped (earlier ++ made) result after := by
  rcases decided with ⟨slot, member, stop, ended, unmade, apart⟩ |
    ⟨opening, played, following, rfl, threaded, flag, ended⟩
  · exact .inl ⟨slot, member, stop, ended, unmade, List.forall_mem_append.mpr ⟨aside, apart⟩⟩
  · exact .inr ⟨earlier ++ opening, played, following, (List.append_assoc ..).symm,
      threaded.extend aside, flag, ended⟩

def Concluded (failure : Option Failure) (before : Shared) (made : List Exchange)
    (result : Except Stop (List Summary)) (after : Shared) : Prop :=
  made = [] ∧ after.stopped = before.stopped ∧
    result = (outcomeOf failure before.stopped after.hub.summaries).mapError .failure

/-- The usage is reported and the run concluded, whatever the counters read. -/
def Concludes (record : W → List Exchange) (ready : W → Prop)
    (next : Option Failure × Usage × Usage → Running (StateM W) (List Summary)) : Prop :=
  ∀ failure before after current world, before.Modest → after.Modest → ready world →
    Tells record (next (failure, before, after)) current world fun made result left _ =>
      Concluded failure current made result left

theorem runThreads_decided (heard : host.Heard record)
    (serves : Serves host prepared.settings name ready) (attendance : Attendance shared.hub [])
    (order : turns.order.Perm (List.range (prepared.plan.slots prepared.settings).length))
    (good : ready world)
    {next : Option Failure × Usage × Usage → Running (StateM W) (List Summary)}
    (ends : Concludes record ready next) :
    Tells record (runThreads host prepared turns (prepared.plan.slots prepared.settings) >>= next)
      shared world fun made result after _ =>
        Decided host prepared record turns (record world) shared.stopped made result after := by
  rcases @runThreads_cases _ _ _ prepared _ heard attendance turns _ order world with
    ⟨stop, after, runs, slot, member, unmade⟩ |
    ⟨enlisted, played, after, last, same, _, _, numbers, relay, runs⟩
  · apply Tells.bind
    refine Tells.still runs rfl (.inl ⟨slot, member, stop, rfl, unmade, by simp⟩)
  · obtain ⟨⟨before, measured, modest⟩, started⟩ := serves.measure world good
    obtain ⟨⟨ending, counted, bounded⟩, finished⟩ :=
      serves.measure last (serves.relay relay started)
    rw [measured, counted] at runs
    dsimp only at runs
    have said : record (host.measure prepared.settings.folder last).2 =
        record world ++ played.flatMap Turn.said := by
      rw [heard.measure, relay.said heard, heard.measure]
    apply Tells.bind
    refine Tells.known runs said ?_
    apply (ends _ _ _ _ _ modest bounded finished).mono
    rintro more result left _ ⟨rfl, stopped, ended⟩
    rw [← stopped] at ended
    refine .inr ⟨[], played, after, by simp, ⟨by simp, numbers, enlisted, _, last, ?_, ?_, relay⟩,
      stopped, left.hub.summaries, ended⟩
    · rw [heard.measure, List.append_nil]
    · rw [same, List.any_nil, Bool.or_false]

/-- The work of the workers decides on what is said and comes of it, whatever concludes the run. -/
def Decides (record : W → List Exchange) (ready : W → Prop)
    (decided : List Exchange → Bool → List Exchange → Except Stop (List Summary) → Shared → Prop)
    (work : Running (StateM W) (Option Failure × Usage × Usage)) : Prop :=
  ∀ {current start next}, Attendance current.hub [] → ready start → Concludes record ready next →
    Tells record (work >>= next) current start fun made result after _ =>
      decided (record start) current.stopped made result after

theorem runOpened_by (heard : host.Heard record)
    (serves : Serves host prepared.settings name ready) (attendance : Attendance shared.hub [])
    (good : ready world)
    (takes : (runFrom (applyEngineOptions host prepared.settings.engineOptions) shared world).1.1 =
      .ok ())
    {decided : List Exchange → Bool → List Exchange → Except Stop (List Summary) → Shared → Prop}
    (extend : ∀ before earlier stopped made result after,
      decided (before ++ earlier) (stopped || earlier.any Exchange.interrupted) made result after →
        (∀ exchange ∈ earlier, exchange.aside = true) →
          decided before stopped (earlier ++ made) result after)
    (threads : prepared.plan.single = false → Decides record ready decided
      (runThreads host prepared turns (prepared.plan.slots prepared.settings)))
    (alone : prepared.plan.single = true → ∀ slot ∈ prepared.plan.slots prepared.settings,
      Decides record ready decided (runSingle host prepared slot)) :
    Tells record (runOpened host name prepared turns) shared world fun made result after _ =>
      decided (record world) shared.stopped made result after := by
  obtain ⟨offered, said, answered, offers, _⟩ := @applyEngineOptions_tells _ _ _ shared world heard
    prepared.settings.engineOptions
  have aside : ∀ exchange ∈ offered, exchange.aside = true := by
    intro exchange member
    obtain ⟨option, same⟩ := offers exchange member
    simp [Exchange.aside, same]
  have kept := @Serves.options _ _ _ shared _ _ _ serves prepared.settings.engineOptions good
  have attended : Attendance (shared.answered offered).hub [] := by
    rw [Shared.hub_answered]
    exact attendance
  have works : Decides record ready decided (runTurns host prepared turns) := by
    cases single : prepared.plan.single with
    | false =>
        rw [runTurns_threads host single]
        exact threads single
    | true =>
        have only : prepared.plan.slots prepared.settings = [_] := Plan.slots_single single
        rw [runTurns_single host single]
        intro current start next
        exact alone single _ (only ▸ List.mem_singleton_self _)
  have ends : Concludes record ready
      (runReports host (reportNames prepared.settings name)) := by
    intro failure before after current world modest bounded good
    have sums (cause : Panic) (failed : Consumption.between before after = .error cause) :
        False := by
      obtain ⟨used, possible⟩ := Scene.between_modest modest bounded
      rw [failed] at possible
      cases possible
    apply (@runReports_tells _ _ _ _ _ heard _ serves.reporting (failure, before, after) sums
      current world good).mono
    rintro made result left _ ⟨silent, flag, ended⟩
    exact ⟨silent, flag, ended.resolve_left (by simp)⟩
  rw [runOpened_eq, runWorkers, bind_assoc]
  apply Tells.bind
  refine Tells.known rfl said ?_
  rw [takes]
  generalize runFrom (applyEngineOptions host prepared.settings.engineOptions) shared world = left
    at said answered kept
  obtain ⟨⟨_, _⟩, left⟩ := left
  subst answered
  dsimp only
  rw [bind_assoc]
  apply (serves.reporting.timeline heard _ kept).recorded.bindFrom
  · rintro more stop after last ⟨⟨_, _, impossible, _⟩, _⟩
    exact (impossible stop rfl).elim
  · rintro more started current last ⟨⟨rfl, good, _, flag, _, attends⟩, hears⟩
    apply (works (attends attended) good ends).mono
    intro made result after _ decision
    rw [List.append_nil] at hears
    rw [flag, Shared.stopped_answered, hears, said] at decision
    exact extend _ _ _ _ _ _ decision aside

theorem runOpened_decided (heard : host.Heard record)
    (serves : Serves host prepared.settings name ready) (attendance : Attendance shared.hub [])
    (threaded : prepared.plan.single = false)
    (order : turns.order.Perm (List.range (prepared.plan.slots prepared.settings).length))
    (good : ready world)
    (takes : (runFrom (applyEngineOptions host prepared.settings.engineOptions) shared world).1.1 =
      .ok ()) :
    Tells record (runOpened host name prepared turns) shared world fun made result after _ =>
      Decided host prepared record turns (record world) shared.stopped made result after := by
  refine runOpened_by heard serves attendance good takes (fun _ _ _ _ _ _ => .extend) ?_ ?_
  · intro several current start next attendance good ends
    exact runThreads_decided heard serves attendance order good ends
  · intro single
    rw [threaded] at single
    cases single

end Opened

/-- If the engine opens and takes its options, and files and counters are in order, the workers on
threads decide what becomes of the run.  All of them have their turns, the first that fails gives
the run its failure, and the run ends well only if it was not stopped before the engine was closed:
nothing takes back that it was. -/
theorem first_failure_settles (heard : host.Heard record)
    (serves : Serves host settings name ready) {clock : Nat}
    (accepted : prepare settings clock = .ok prepared) (threaded : prepared.plan.single = false)
    {turns : Turns} (order : turns.order.Perm (List.range (prepared.plan.slots settings).length))
    (stopped : Bool) (good : ready world) {pair : Pair} {opened : Answer × W}
    (answered : host.engine (.openStore settings.folder)
      (host.makeFolders settings.folder world).2 = opened)
    (opens : opened.1.reply = .ok pair)
    (takes : (runFrom (applyEngineOptions host settings.engineOptions)
      (Shared.answered { prepared.shared with stopped } [⟨.openStore settings.folder, opened.1⟩])
      opened.2).1.1 = .ok ()) :
    let run := runFrom (runAll host name prepared turns) { prepared.shared with stopped } world
    let broken := turns.broken.any (· < (prepared.plan.slots settings).length)
    (wordLimit / 2 ≤ settings.keySize + settings.valueSize ∧
      ∃ cause opening, run.1.1 = .error (.panic cause) ∧
        (cause = .overflow ∨ cause = .allocation) ∧ record run.2 = record world ++ opening ∧
        ∀ exchange ∈ opening, exchange.aside = true) ∨
    ∃ opening played after closing,
      record run.2 =
        record world ++ (opening ++ played.flatMap Turn.said ++ [⟨.close, closing⟩]) ∧
      Threaded host settings record turns.order (record world) stopped opening played after ∧
      Settles settings broken stopped opening played closing.reply run.1.1 ∧
      (∀ summaries, run.1.1 = .ok summaries →
        (stopped || (opening ++ played.flatMap Turn.said).any Exchange.interrupted || broken) =
          false) ∧
      run.1.2.stopped = (stopped || (opening ++ played.flatMap Turn.said ++
        [(⟨.close, closing⟩ : Exchange)]).any Exchange.interrupted ||
          played.any (·.failure?.isSome) || broken) := by
  obtain ⟨_, rfl, _⟩ := prepare_eq accepted
  intro run broken
  obtain ⟨served, home⟩ := serves.makeFolders world good
  have prepares := serves.engine (.openStore prepared.settings.folder) _ home
  have staged : run = _ :=
    runFrom_runAll host name prepared turns { prepared.shared with stopped } world
  dsimp only at staged
  rw [answered] at prepares staged
  rw [served, opens] at staged
  have opening : record opened.2 =
      record world ++ [⟨.openStore prepared.settings.folder, opened.1⟩] := by
    rw [← answered, heard.engine, heard.makeFolders]
  have attended : Attendance (Shared.answered { prepared.shared with stopped }
      [⟨.openStore prepared.settings.folder, opened.1⟩]).hub [] := by
    rw [Shared.hub_answered]
    exact prepared_attendance accepted
  obtain ⟨middle, said, decided⟩ :=
    runOpened_decided heard serves attended threaded order prepares takes
  generalize runFrom (runOpened host name prepared turns) _ opened.2 = between
    at staged said decided
  rw [opening, Shared.stopped_answered] at decided
  rw [opening, List.append_assoc] at said
  rcases decided.extend (by simp [Exchange.aside]) with
    ⟨slot, member, stop, ended, unmade, apart⟩ |
    ⟨calls, played, after, split, threads, flag, summaries, ended⟩
  · obtain ⟨large, cause, rfl, reason⟩ := unmade.cramped accepted member
    rw [ended] at staged
    rw [staged]
    exact .inl ⟨large, cause, _, rfl, reason, said, apart⟩
  · have closed : run = ((settled (outcomeOf (played.findSome? Turn.failure?) between.1.2.stopped
        summaries) (host.engine .close between.2).1.reply,
          between.1.2.answered [⟨.close, (host.engine .close between.2).1⟩]),
        (host.engine .close between.2).2) := by
      rw [staged, ended]
      cases outcomeOf (played.findSome? Turn.failure?) between.1.2.stopped summaries <;> rfl
    rw [closed]
    rw [split] at said
    have settles := @Threaded.settles _ _ _ prepared.settings _ _ _ _ _ _ heard threads broken
      (host.engine .close between.2).1.reply summaries
    rw [← flag] at settles
    refine .inr ⟨calls, played, after, (host.engine .close between.2).1, ?_, threads, settles,
      fun _ => settles.unstopped, ?_⟩
    · rw [heard.engine, said, List.append_assoc (record world)]
    · rw [Shared.stopped_answered, flag, threads.stops heard]
      simp only [List.any_append]
      ac_rfl

theorem Host.scribe_serves (answers : List Exchange → Call → Answer) (settings : Settings)
    (name : String) : Serves (Host.scribe answers) settings name fun _ => True where
  engine _ _ _ := trivial
  say _ _ _ := trivial
  makeFolders _ _ := ⟨rfl, trivial⟩
  create _ _ _ _ _ := ⟨rfl, trivial⟩
  write _ _ _ _ _ _ := ⟨rfl, trivial⟩
  mirror _ _ _ _ := trivial
  measure _ _ := ⟨⟨.zero, rfl, by constructor <;> decide⟩, trivial⟩

/-- An engine without records that has an answer of its own for one call. -/
def upset (call : Call) (answer : Answer) (_ : List Exchange) (asked : Call) : Answer :=
  if asked = call then answer
  else
    match asked with
    | .next _ _ _ => ⟨.error .notFound, 3, false⟩
    | _ => ⟨.ok .empty, 3, false⟩

theorem first_failure_settles_upset : ∃ prepared opening played after closing,
    let host := Host.scribe (upset (.begin 1 .iterate) ⟨.panic "upset", 3, false⟩)
    let run := runFrom (runAll host "btreemap" prepared ⟨[1, 0], []⟩)
      { prepared.shared with stopped := false } []
    prepare browsing 0 = .ok prepared ∧
      run.2 = opening ++ played.flatMap Turn.said ++ [⟨.close, closing⟩] ∧
      run.2.map Exchange.call = [.openStore browsing.folder, .newContext 1, .begin 1 .iterate,
        .newContext 0, .dispose 0, .close] ∧
      Threaded host browsing id [1, 0] [] false opening played after ∧
      Settles browsing false false opening played closing.reply
        (.error (.failure (.aborted (.panicked 1)))) ∧ run.1.2.stopped = true := by
  have checked : (match prepare browsing 0 with
      | .error _ => false
      | .ok prepared =>
        let run := runFrom (runAll (Host.scribe (upset (.begin 1 .iterate)
          ⟨.panic "upset", 3, false⟩)) "btreemap" prepared ⟨[1, 0], []⟩)
            { prepared.shared with stopped := false } []
        decide ((prepared.plan.slots browsing).length = 2 ∧ prepared.plan.single = false ∧
          (run.1.1.map fun _ => ()) = .error (.failure (.aborted (.panicked 1))) ∧
          run.2.map Exchange.call = [.openStore browsing.folder, .newContext 1,
            .begin 1 .iterate, .newContext 0, .dispose 0, .close] ∧
          run.1.2.stopped = true)) = true := by
    decide +kernel
  rcases accepted : prepare browsing 0 with cause | prepared
  · rw [accepted] at checked
    cases checked
  · rw [accepted] at checked
    obtain ⟨slots, threaded, failed, calls, flag⟩ := of_decide_eq_true checked
    have order : (Turns.mk [1, 0] []).order.Perm
        (List.range (prepared.plan.slots browsing).length) := by
      rw [slots]
      decide
    have told := @first_failure_settles _ (Host.scribe (upset (.begin 1 .iterate)
      ⟨.panic "upset", 3, false⟩)) id browsing prepared [] "btreemap" (fun _ => True)
      (Host.scribe_heard _) (Host.scribe_serves _ _ _) 0 accepted threaded ⟨[1, 0], []⟩ order false
      trivial .empty _ rfl rfl rfl
    rcases told with ⟨large, _⟩ | ⟨opening, played, after, closing, said, threads, settles, _⟩
    · exact absurd large (by decide)
    · rw [failed_of_map failed] at settles
      exact ⟨prepared, opening, played, after, closing, rfl, said, calls, threads, settles, flag⟩

/-- An interrupt that arrives while the engine is closed stops nothing any more. -/
theorem late_interrupt_unnoticed : ∃ prepared summaries,
    let host := Host.scribe (upset .close ⟨.ok .empty, 3, true⟩)
    let run := runFrom (runAll host "btreemap" prepared ⟨[1, 0], []⟩) prepared.shared []
    prepare browsing 0 = .ok prepared ∧ prepared.plan.single = false ∧
      run.1.1 = .ok summaries ∧ run.2.any Exchange.interrupted = true ∧
      run.1.2.stopped = true := by
  have checked : (match prepare browsing 0 with
      | .error _ => false
      | .ok prepared =>
        let run := runFrom (runAll (Host.scribe (upset .close ⟨.ok .empty, 3, true⟩)) "btreemap"
          prepared ⟨[1, 0], []⟩) prepared.shared []
        prepared.plan.single = false && run.1.1.isOk && run.2.any Exchange.interrupted &&
          run.1.2.stopped) = true := by
    decide +kernel
  rcases accepted : prepare browsing 0 with cause | prepared
  · rw [accepted] at checked
    cases checked
  · rw [accepted] at checked
    simp only [Bool.and_eq_true, decide_eq_true_eq] at checked
    obtain ⟨⟨⟨threaded, well⟩, arrived⟩, flag⟩ := checked
    rcases ended : (runFrom (runAll (Host.scribe (upset .close ⟨.ok .empty, 3, true⟩)) "btreemap"
        prepared ⟨[1, 0], []⟩) prepared.shared []).1.1 with stop | summaries
    · rw [ended] at well
      cases well
    · exact ⟨prepared, summaries, rfl, threaded, ended, arrived, flag⟩

end StoreBench.Run
