import StoreBench.Proofs.Run.Opened

/-! The life of an engine.

A run opens the engine before anything else and closes it after everything else, whatever became of
it in between; every context that the engine made is disposed of by then, once.
-/

namespace StoreBench.Run

open StoreBench.Engine (Answer Call Exchange Reply)
open StoreBench.Latency (Attendance Hub Summary)

variable {W : Type} {settings : Settings} {host : Host (StateM W)} {record : W → List Exchange}
  {prepared : Prepared}

/-- What a run comes to: its own failure goes before one of closing. -/
def settled {α : Type} (outcome : Except Failure α) : Reply → Except Stop α
  | .ok _ => outcome.mapError .failure
  | .error cause =>
    match outcome with
    | .ok _ => .error (.failure (.engine cause))
    | .error failure => .error (.failure failure)
  | .panic reason => .error (.panic (.engine reason))

/-- What a run says to the engine and what it comes to, by what became of its folders, of opening
the engine, of the part in between and of closing. -/
inductive Lifecycle (host : Host (StateM W)) (settings : Settings) (record : W → List Exchange)
    (folders : Except FileError Unit) (opened : Answer)
    (between : Except Stop (List Summary)) (closing : Answer) :
    List Exchange → Except Stop (List Summary) → Prop where
  | homeless {cause : FileError} (refused : folders = .error cause) :
      Lifecycle host settings record folders opened between closing []
        (.error (.failure (.file cause)))
  | unopened {cause : EngineError} (served : folders = .ok ())
      (refuses : opened.reply = .error cause) :
      Lifecycle host settings record folders opened between closing
        [⟨.openStore settings.folder, opened⟩] (.error (.failure (.engine cause)))
  | closed {pair : Pair} {outcome : Except Failure (List Summary)} {offered : List Exchange}
      {turns : List Turn} (served : folders = .ok ()) (opens : opened.reply = .ok pair)
      (ended : between = outcome.mapError .failure)
      (offers : ∀ exchange ∈ offered, ∃ option, exchange.call = .option option)
      (distinct : (turns.map fun turn => turn.worker.number).Nodup)
      (tidy : ∀ turn ∈ turns, turn.Tidy host settings record) :
      Lifecycle host settings record folders opened between closing
        (⟨.openStore settings.folder, opened⟩ ::
          (offered ++ turns.flatMap Turn.said ++ [⟨.close, closing⟩]))
        (settled outcome closing.reply)

namespace Lifecycle

variable {folders : Except FileError Unit} {opened closing answer : Answer} {pair : Pair}
  {between result : Except Stop (List Summary)} {made : List Exchange}

theorem closes
    (life : Lifecycle host settings record folders opened between closing made result)
    {folder : String} (member : ⟨.openStore folder, answer⟩ ∈ made)
    (opens : answer.reply = .ok pair) : .close ∈ made.map Exchange.call := by
  cases life with
  | homeless refused => cases member
  | unopened served refuses =>
      obtain ⟨⟩ := List.mem_singleton.mp member
      rw [opens] at refuses
      cases refuses
  | closed served well ended offers distinct tidy => simp

theorem disposes
    (life : Lifecycle host settings record folders opened between closing made result)
    {context : Nat} (member : ⟨.newContext context, answer⟩ ∈ made)
    (opens : answer.reply = .ok pair) : .dispose context ∈ made.map Exchange.call := by
  cases life with
  | homeless refused => cases member
  | unopened served refuses => cases List.mem_singleton.mp member
  | @closed _ _ offered turns served well ended offers distinct tidy =>
      simp only [List.mem_cons, List.mem_append, reduceCtorEq, Exchange.mk.injEq, false_and,
        List.not_mem_nil, or_false, false_or] at member
      rcases member with early | late
      · obtain ⟨option, impossible⟩ := offers _ early
        cases impossible
      · obtain ⟨turn, among, said⟩ := List.mem_flatMap.mp late
        obtain rfl : context = turn.worker.number := Option.some.inj ((tidy turn among).own _ said)
        obtain ⟨exchange, within, same⟩ :=
          List.mem_map.mp ((tidy turn among).tenancy.disposes said opens)
        refine List.mem_map.mpr ⟨exchange, ?_, same⟩
        have all := List.mem_flatMap.mpr ⟨turn, among, within⟩
        simp [all]

end Lifecycle

theorem prepared_attendance {clock : Nat} (accepted : prepare settings clock = .ok prepared) :
    Attendance prepared.shared.hub [] := by
  obtain ⟨_, _, _, _, interval, fresh⟩ := prepare_eq accepted
  have enables (kinds : List Kind) (hub : Hub) (attendance : Attendance hub []) :
      Attendance (kinds.foldl Hub.enable hub) [] := by
    induction kinds generalizing hub with
    | nil => exact attendance
    | cons kind kinds ih =>
        refine ih _ ?_
        unfold Hub.enable
        split
        · exact attendance
        · exact attendance.congr rfl rfl rfl
  rw [fresh]
  exact enables _ _ ⟨rfl, rfl, .inl rfl, by simp⟩

theorem runFrom_runAll (host : Host (StateM W)) (name : String) (prepared : Prepared)
    (turns : Turns) (shared : Shared) (world : W) :
    runFrom (runAll host name prepared turns) shared world =
      let folders := host.makeFolders prepared.settings.folder world
      let opened := host.engine (.openStore prepared.settings.folder) folders.2
      let current := shared.answered [⟨.openStore prepared.settings.folder, opened.1⟩]
      let between := runFrom (runOpened host name prepared turns) current opened.2
      let closing := host.engine .close between.2
      let closed (outcome : Except Failure (List Summary)) :=
        ((settled outcome closing.1.reply, between.1.2.answered [⟨.close, closing.1⟩]), closing.2)
      match folders.1, replied opened.1.reply, between.1.1 with
      | .error cause, _, _ => ((.error (.failure (.file cause)), shared), folders.2)
      | .ok (), .error stop, _ => ((.error stop, current), opened.2)
      | .ok (), .ok (), .error (.panic cause) => ((.error (.panic cause), between.1.2), between.2)
      | .ok (), .ok (), .error (.failure cause) => closed (.error cause)
      | .ok (), .ok (), .ok summaries => closed (.ok summaries) := by
  unfold runAll fileStep
  rw [runFrom_bind, runFrom_lift]
  rcases host.makeFolders prepared.settings.folder world with ⟨_ | _, left⟩
  · rfl
  dsimp only
  rw [runFrom_pure]
  dsimp only
  rw [runFrom_bind, runFrom_demandCall]
  rcases replied (host.engine (.openStore prepared.settings.folder) left).1.reply with stop | done
  · rfl
  dsimp only
  rw [runFrom_bind, runFrom_attempt]
  have closes (outcome : Except Failure (List Summary)) (after : Shared) (left : W) :
      runFrom (do
        let closing ← attempt (demandCall host .close)
        let summaries ← settle outcome
        settle closing
        return summaries) after left =
        ((settled outcome (host.engine .close left).1.reply,
          after.answered [⟨.close, (host.engine .close left).1⟩]),
          (host.engine .close left).2) := by
    rw [runFrom_bind, runFrom_attempt, runFrom_demandCall]
    rcases (host.engine .close left).1.reply with pair | cause | reason
    · cases outcome <;> rfl
    · cases outcome <;> rfl
    · rfl
  generalize runFrom (runOpened host name prepared turns) _ _ = between
  rcases between with ⟨⟨(cause | cause) | summaries, after⟩, left⟩
  · exact closes (.error cause) after left
  · rfl
  · exact closes (.ok summaries) after left

/-- The run, or a worker in a turn that was heard in it, ended in a panic that has a reason. -/
structure Thwarted (host : Host (StateM W)) (record : W → List Exchange)
    (samples : Usage → Usage → Prop) (prepared : Prepared) (made : List Exchange)
    (result : Except Stop (List Summary)) (cause : Panic) : Prop where
  panicked : result = .error (.panic cause) ∨ ∃ turn : Turn,
    turn.said <:+: made ∧ turn.result = .error (.panic cause) ∧ ∃ shared world desk left,
      turn.Played host prepared.settings record shared world desk left
  reason : Thwarts samples prepared made cause

/-- A session between opening and closing is a life of the engine, unless a worker panics. -/
theorem Session.closed {α : Type} {samples : Usage → Usage → Prop}
    {folders : Except FileError Unit} {opened closing : Answer} {pair : Pair} {played : List Turn}
    {middle : List Exchange} {result : Except Stop α} {between : Except Stop (List Summary)}
    {outcome : Except Failure (List Summary)}
    (session : Session host record samples prepared played middle result)
    (served : folders = .ok ()) (opens : opened.reply = .ok pair)
    (ended : between = outcome.mapError .failure) :
    (∃ cause, Thwarted host record samples prepared
        (⟨.openStore prepared.settings.folder, opened⟩ :: (middle ++ [⟨.close, closing⟩]))
        (settled outcome closing.reply) cause) ∨
      Lifecycle host prepared.settings record folders opened between closing
        (⟨.openStore prepared.settings.folder, opened⟩ :: (middle ++ [⟨.close, closing⟩]))
        (settled outcome closing.reply) := by
  have within : middle <:+:
      ⟨.openStore prepared.settings.folder, opened⟩ :: (middle ++ [⟨.close, closing⟩]) :=
    ⟨[_], [_], rfl⟩
  rcases session.tidy with ⟨turn, member, cause, panics, thwarts⟩ | tidy
  · refine .inl ⟨cause, .inr ⟨turn, (session.heard member).trans within, panics, ?_⟩,
      thwarts.mono within⟩
    exact session.played turn member
  · obtain ⟨offered, rfl, offers⟩ := session.said
    exact .inr (.closed served opens ended offers session.distinct tidy)

def browsing : Settings :=
  { Settings.default with
    kinds := [.iterate]
    keys := 4
    count := 2
    readers := 2 }

/-- An engine that loses the store at one call, and can then not be closed. -/
def stuck (moment : Nat) (said : List Exchange) (call : Call) : Answer :=
  if call = .close then ⟨.error (.failed "stuck"), 3, false⟩ else losing moment said call

/-- The first call of such a run. -/
def opening : Exchange :=
  ⟨.openStore browsing.folder, stuck 2 [] (.openStore browsing.folder)⟩

end StoreBench.Run
