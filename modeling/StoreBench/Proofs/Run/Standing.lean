import StoreBench.Proofs.Run.Opened

/-! The work of a worker, cut into steps.

A worker opens its context, asks whether there is another pass, runs each kind of the pass, counts
the pass, and so on; it stops the run if it fails, and it leaves the hub at its end.  Taken one
after the other, these steps are its turn.  Between two steps of a worker others may take theirs.
-/

namespace StoreBench.Run

open StoreBench.Engine (Answer Call Exchange)
open Relation (ReflTransGen)

variable {W α : Type}

/-- Where a worker is in its work. -/
inductive Place where
  | starting
  | asking
  | sweeping (kinds : List Kind)
  | counted
  | passed (outcome : Except Failure Unit)
  | failing (stop : Stop)
  | left (result : Except Stop Unit)
  | gone

namespace Place

/-- The worker is out of its passes, and it is not about to stop the run. -/
def through : Place → Bool
  | .passed (.ok ()) | .left _ | .gone => true
  | _ => false

/-- The worker has swept all kinds of a pass and is about to count it. -/
def swept : Place → Bool
  | .sweeping [] => true
  | _ => false

def present : Place → Bool
  | .gone => false
  | _ => true

theorem present_of_inside {place : Place} (inside : place.through = false) :
    place.present = true := by
  cases place with
  | gone => cases inside
  | _ => rfl

/-- Where the end of the passes leads to: a context is left behind by a panic. -/
def ofResult : Except Stop Unit → Place
  | .ok () => .passed (.ok ())
  | .error (.failure cause) => .passed (.error cause)
  | .error (.panic cause) => .failing (.panic cause)

end Place

/-- A worker at its desk, with the passes it has made, and the world around it. -/
structure Standing (W : Type) where
  made : Nat
  place : Place
  desk : Desk
  world : W

/-- A context of its own for the worker, with the options. -/
def openContext {m : Type → Type} [Monad m] (stage : Stage m) (settings : Settings)
    (context : Nat) : Work m Unit := do
  let _ ← demand stage (.newContext context)
  applyOptions stage context settings.engineOptions

namespace Standing

/-- Some work is done, and its end decides where the worker is. -/
def does (now : Standing W) (ran : (Except Stop α × Desk) × W) (place : Except Stop α → Place) :
    Standing W :=
  { now with place := place ran.1.1, desk := ran.1.2, world := ran.2 }

/-- The pass is complete; the worker counts itself among the finished after the last one of its
own. -/
def counts (settings : Settings) (now : Standing W) : Standing W :=
  { now with
    made := now.made + 1
    place := .counted
    desk :=
      if now.made + 1 = settings.passes then
        { now.desk with
          shared := { now.desk.shared with finished := now.desk.shared.finished + 1 } }
      else now.desk }

def dismissed (host : Host (StateM W)) (now : Standing W) : Standing W :=
  let ran := runFrom (dismiss host now.desk.worker) now.desk.shared now.world
  { now with place := .gone, desk := { now.desk with shared := ran.1.2 }, world := ran.2 }

/-- The next step of a worker. -/
def step (host : Host (StateM W)) (settings : Settings) (now : Standing W) : Standing W :=
  let context := now.desk.worker.number
  match now.place with
  | .starting =>
    now.does (runFrom (openContext host.stage settings context) now.desk now.world) fun
      | .ok () => .asking
      | .error stop => .failing stop
  | .asking =>
    { now with
      place :=
        if wordLimit ≤ now.made then .failing (.panic .overflow)
        else if anotherPass settings now.desk.shared now.made then
          .sweeping now.desk.worker.kinds.toList
        else .passed (.ok ()) }
  | .sweeping [] => now.counts settings
  | .sweeping (kind :: kinds) =>
    if now.desk.shared.stopped then { now with place := .passed (.ok ()) }
    else
      now.does (runFrom (runKind host.stage settings context kind) now.desk now.world) fun
        | .ok () => .sweeping kinds
        | .error stop => .ofResult (.error stop)
  | .counted =>
    { now with place := if now.desk.shared.stopped then .passed (.ok ()) else .asking }
  | .passed outcome =>
    now.does (runFrom (ask host.stage (.dispose context)) now.desk now.world) fun
      | .ok _ =>
        match outcome with
        | .ok () => .left (.ok ())
        | .error cause => .failing (.failure cause)
      | .error stop => .failing stop
  | .failing stop =>
    { now with
      place := .left (.error stop)
      desk := { now.desk with shared := { now.desk.shared with stopped := true } } }
  | .left _ => now.dismissed host
  | .gone => now

end Standing

/-- What work on a desk leaves alone. -/
structure Stays (before after : Desk) : Prop where
  finished : after.shared.finished = before.shared.finished
  enlisted : after.shared.enlisted = before.shared.enlisted
  running : after.shared.stopped = false → before.shared.stopped = false
  number : after.worker.number = before.worker.number

namespace Stays

variable {before middle after : Desk}

theorem refl (desk : Desk) : Stays desk desk := ⟨rfl, rfl, id, rfl⟩

theorem trans (first : Stays before middle) (second : Stays middle after) : Stays before after where
  finished := second.finished.trans first.finished
  enlisted := second.enlisted.trans first.enlisted
  running := first.running ∘ second.running
  number := second.number.trans first.number

theorem of_alters (alter : Alters before after) : Stays before after := by
  cases alter <;> exact ⟨rfl, rfl, id, rfl⟩

theorem answered (desk : Desk) (exchange : Exchange) : Stays desk (desk.answered [exchange]) where
  finished := rfl
  enlisted := rfl
  running running := (Bool.or_eq_false_iff.mp running).1
  number := rfl

end Stays

theorem Conduct.stays {stage : Stage (StateM W)} {context : Nat} {piece : Work (StateM W) α}
    {desk : Desk} (conduct : Conduct stage context Alters piece desk) (world : W) :
    Stays desk (runFrom piece desk world).1.2 := by
  induction conduct generalizing world with
  | pure value => exact .refl _
  | throw stop => exact .refl _
  | reads _ ih => exact ih world
  | set alter => exact .of_alters alter
  | modifies alter => exact .of_alters alter
  | calls call own =>
      rw [runFrom_ask]
      exact .answered _ _
  | publishes emission => exact .refl _
  | bind _ _ first rest =>
      have begun := first world
      rw [runFrom_bind]
      generalize runFrom _ _ world = ended at begun
      rcases ended with ⟨⟨stop | value, after⟩, left⟩
      · exact begun
      · exact begun.trans (rest value after left)
  | attempt _ ih =>
      have begun := ih world
      rw [runFrom_attempt]
      generalize runFrom _ _ world = ended at begun
      rcases ended with ⟨⟨(_ | _) | _, _⟩, _⟩ <;> exact begun

theorem openContext_stays (host : Host (StateM W)) (settings : Settings) (context : Nat)
    (desk : Desk) (world : W) :
    Stays desk (runFrom (openContext host.stage settings context) desk world).1.2 :=
  ((demand_conduct host.stage _ rfl).bind fun _ _ => applyOptions_conduct _).stays world

theorem runKind_stays (host : Host (StateM W)) (settings : Settings) (context : Nat) (kind : Kind)
    (desk : Desk) (world : W) :
    Stays desk (runFrom (runKind host.stage settings context kind) desk world).1.2 :=
  (runKind_conduct kind).stays world

namespace Standing

/-- What a step can do to the numbers of a run and to the place of the worker. -/
inductive Takes (settings : Settings) (before after : Standing W) : Prop where
  | moves (made : after.made = before.made) (stays : Stays before.desk after.desk)
      (unswept : before.place.swept = false)
      (present : after.place.present = before.place.present)
      (through : after.place.through = true → before.place.through = true ∨
        after.desk.shared.stopped = true ∨
        anotherPass settings before.desk.shared before.made = false)
  | counts (place : before.place = .sweeping []) (done : after = before.counts settings)
  | leaves (result : Except Stop Unit) (place : before.place = .left result)
      (left : after.place = .gone) (made : after.made = before.made)
      (worker : after.desk.worker = before.desk.worker)
      (finished : after.desk.shared.finished = before.desk.shared.finished)
      (enlisted : after.desk.shared.enlisted = before.desk.shared.enlisted - 1)
      (running : after.desk.shared.stopped = before.desk.shared.stopped)

theorem step_takes (host : Host (StateM W)) (settings : Settings) (now : Standing W) :
    Takes settings now (now.step host settings) := by
  obtain ⟨made, place, desk, world⟩ := now
  cases place with
  | starting =>
      have stays := openContext_stays host settings desk.worker.number desk world
      refine .moves rfl stays rfl ?_ ?_
      · dsimp only [step, does]
        split <;> rfl
      · dsimp only [step, does]
        split <;> simp [Place.through]
  | asking =>
      refine .moves rfl (.refl _) rfl ?_ ?_
      · dsimp only [step]
        split
        · rfl
        · split <;> rfl
      · dsimp only [step]
        split
        · simp [Place.through]
        · split
          · simp [Place.through]
          · next last => exact fun _ => .inr (.inr (by simpa using last))
  | sweeping kinds =>
      cases kinds with
      | nil => exact .counts rfl rfl
      | cons kind kinds =>
          unfold step
          dsimp only
          split
          · next stopped => exact .moves rfl (.refl _) rfl rfl fun _ => .inr (.inl stopped)
          · have stays := runKind_stays host settings desk.worker.number kind desk world
            refine .moves rfl stays rfl ?_ ?_
            · dsimp only [does]
              split
              · rfl
              · next stop _ => cases stop <;> rfl
            · dsimp only [does]
              split
              · simp [Place.through]
              · next stop _ => cases stop <;> simp [Place.ofResult, Place.through]
  | counted =>
      refine .moves rfl (.refl _) rfl ?_ ?_
      · dsimp only [step]
        split <;> rfl
      · dsimp only [step]
        split
        · next stopped => exact fun _ => .inr (.inl stopped)
        · simp [Place.through]
  | passed outcome =>
      have stays : Stays desk
          (runFrom (ask host.stage (.dispose desk.worker.number)) desk world).1.2 := by
        rw [runFrom_ask]
        exact .answered _ _
      refine .moves rfl stays rfl ?_ ?_
      · dsimp only [step, does]
        split
        · cases outcome <;> rfl
        · rfl
      · dsimp only [step, does]
        split
        · cases outcome <;> simp [Place.through]
        · simp [Place.through]
  | failing stop => exact .moves rfl ⟨rfl, rfl, nofun, rfl⟩ rfl rfl fun _ => .inr (.inl rfl)
  | left result =>
      refine .leaves result rfl rfl rfl rfl ?_ ?_ ?_
      · simp only [step, dismissed, runFrom_dismiss, runFrom_withHub]
      · simp only [step, dismissed, runFrom_dismiss, runFrom_withHub]
      · simp only [step, dismissed, runFrom_dismiss, runFrom_withHub]
  | gone => exact .moves rfl (.refl _) rfl rfl .inl

namespace Takes

variable {settings : Settings} {before after : Standing W}

theorem made_le (takes : Takes settings before after) : before.made ≤ after.made := by
  cases takes with
  | moves made => exact made.ge
  | counts place done =>
      rw [done]
      exact Nat.le_succ _
  | leaves _ _ _ made => exact made.ge

theorem number (takes : Takes settings before after) :
    after.desk.worker.number = before.desk.worker.number := by
  cases takes with
  | moves _ stays => exact stays.number
  | counts place done =>
      rw [done]
      dsimp only [Standing.counts]
      split <;> rfl
  | leaves _ _ _ _ worker => rw [worker]

theorem running (takes : Takes settings before after)
    (runs : after.desk.shared.stopped = false) : before.desk.shared.stopped = false := by
  cases takes with
  | moves _ stays => exact stays.running runs
  | counts place done =>
      rw [done] at runs
      dsimp only [Standing.counts] at runs
      split at runs <;> exact runs
  | leaves _ _ _ _ _ _ _ same => rwa [← same]

theorem through (takes : Takes settings before after) (out : after.place.through = true) :
    before.place.through = true ∨ after.desk.shared.stopped = true ∨
      anotherPass settings before.desk.shared before.made = false := by
  cases takes with
  | moves _ _ _ _ through => exact through out
  | counts place done =>
      rw [done] at out
      cases out
  | leaves result place =>
      rw [place]
      exact .inl rfl

theorem adds (takes : Takes settings before after) :
    after.desk.shared.finished = before.desk.shared.finished +
      (before.place.swept && before.made + 1 == settings.passes).toNat := by
  cases takes with
  | moves _ stays unswept => simp [unswept, stays.finished]
  | counts place done =>
      rw [done, place]
      dsimp only [Standing.counts]
      by_cases last : before.made + 1 = settings.passes
      · simp [last, Place.swept]
      · simp [last, Place.swept]
  | leaves result place _ _ _ finished =>
      rw [place, finished]
      rfl

theorem finished (takes : Takes settings before after) :
    after.desk.shared.finished + (decide (settings.passes ≤ before.made)).toNat =
      before.desk.shared.finished + (decide (settings.passes ≤ after.made)).toNat := by
  cases takes with
  | moves made stays => rw [made, stays.finished]
  | counts place done =>
      rw [done]
      dsimp only [Standing.counts]
      by_cases last : before.made + 1 = settings.passes
      · simp [last, show ¬ settings.passes ≤ before.made by omega]
      · have same : settings.passes ≤ before.made + 1 ↔ settings.passes ≤ before.made := by omega
        simp [last, same]
  | leaves _ _ _ made _ finished => rw [made, finished]

theorem enlisted (takes : Takes settings before after)
    (counted : before.place.present = true → 0 < before.desk.shared.enlisted) :
    after.desk.shared.enlisted + before.place.present.toNat =
      before.desk.shared.enlisted + after.place.present.toNat := by
  cases takes with
  | moves made stays _ present => rw [present, stays.enlisted]
  | counts place done =>
      rw [done, place]
      dsimp only [Standing.counts]
      split <;> rfl
  | leaves result place left _ _ _ enlisted =>
      have some := counted (by rw [place]; rfl)
      rw [place, left, enlisted]
      exact Nat.sub_add_cancel some

end Takes

end Standing

section Turns

variable {host : Host (StateM W)} {settings : Settings}

/-- Some steps take a worker from here to there. -/
def Reaches (host : Host (StateM W)) (settings : Settings) : Standing W → Standing W → Prop :=
  ReflTransGen fun now later => now.step host settings = later

theorem Reaches.one {now later : Standing W} (step : now.step host settings = later) :
    Reaches host settings now later := ReflTransGen.single step

theorem Reaches.cons {now next later : Standing W} (step : now.step host settings = next)
    (rest : Reaches host settings next later) : Reaches host settings now later :=
  ReflTransGen.head step rest

theorem Reaches.trans {now next later : Standing W} (first : Reaches host settings now next)
    (rest : Reaches host settings next later) : Reaches host settings now later :=
  ReflTransGen.trans first rest

theorem Reaches.number {now later : Standing W} (reaches : Reaches host settings now later) :
    later.desk.worker.number = now.desk.worker.number := by
  induction reaches with
  | refl => rfl
  | @tail middle _ _ step same =>
      rw [← step]
      exact (Standing.step_takes host settings middle).number.trans same

/-- The kinds of a pass are swept one by one, until the run is stopped or one of them fails. -/
theorem reaches_kindsOfPass (made : Nat) (kinds : List Kind) (desk : Desk) (world : W) :
    Reaches host settings ⟨made, .sweeping kinds, desk, world⟩
      (Standing.does ⟨made, .sweeping kinds, desk, world⟩
        (runFrom (kindsOfPass host.stage settings desk.worker.number kinds) desk world) fun
        | .ok true => .sweeping []
        | .ok false => .passed (.ok ())
        | .error stop => .ofResult (.error stop)) := by
  induction kinds generalizing desk world with
  | nil => exact .refl
  | cons kind kinds ih =>
      unfold kindsOfPass
      rw [runFrom_reads]
      cases stops : desk.shared.stopped with
      | true => exact .one (by simp [Standing.step, stops, runFrom_pure, Standing.does])
      | false =>
          have stays := runKind_stays host settings desk.worker.number kind desk world
          rw [if_neg Bool.false_ne_true, runFrom_bind]
          rcases ran : runFrom (runKind host.stage settings desk.worker.number kind) desk world with
            ⟨⟨stop | done, after⟩, left⟩
          · exact .one (by simp [Standing.step, stops, ran, Standing.does])
          · rw [ran] at stays
            have sweeps : Reaches host settings ⟨made, .sweeping (kind :: kinds), desk, world⟩
                ⟨made, .sweeping kinds, after, left⟩ :=
              .one (by simp [Standing.step, stops, ran, Standing.does])
            have rest := ih after left
            rw [stays.number] at rest
            exact sweeps.trans rest

theorem reaches_passesFrom {made room : Nat} (within : made + room = wordLimit) (desk : Desk)
    (world : W) :
    ∃ total, Reaches host settings ⟨made, .asking, desk, world⟩
      (Standing.does ⟨total, .asking, desk, world⟩
        (runFrom (passesFrom host.stage settings desk.worker.number made room) desk world)
        Place.ofResult) := by
  induction room generalizing made desk world with
  | zero =>
      have last : wordLimit ≤ made := Nat.le_of_eq within.symm
      exact ⟨made, .one (by simp [Standing.step, last]; rfl)⟩
  | succ room ih =>
      have more : ¬ wordLimit ≤ made := by omega
      unfold passesFrom
      rw [runFrom_reads]
      cases another : anotherPass settings desk.shared made with
      | false => exact ⟨made, .one (by simp [Standing.step, more, another]; rfl)⟩
      | true =>
          have begins : Reaches host settings ⟨made, .asking, desk, world⟩
              ⟨made, .sweeping desk.worker.kinds.toList, desk, world⟩ :=
            .one (by simp [Standing.step, more, another])
          have swept := begins.trans (reaches_kindsOfPass made desk.worker.kinds.toList desk world)
          rw [if_pos rfl, runFrom_reads, runFrom_bind]
          generalize runFrom (kindsOfPass _ _ _ _) desk world = ended at swept
          rcases ended with ⟨⟨stop | _ | _, after⟩, left⟩
          · exact ⟨made, swept⟩
          · exact ⟨made, swept⟩
          · have counts : Reaches host settings ⟨made, .asking, desk, world⟩
                (Standing.counts settings ⟨made, .sweeping [], after, left⟩) :=
              swept.trans (.one rfl)
            have same := counts.number
            have goes (counted : Desk) (same : counted.worker.number = desk.worker.number)
                (counts : Reaches host settings ⟨made, .asking, desk, world⟩
                  ⟨made + 1, .counted, counted, left⟩) :
                ∃ total, Reaches host settings ⟨made, .asking, desk, world⟩
                  (Standing.does ⟨total, .asking, desk, world⟩
                    (runFrom (if counted.shared.stopped = true then pure () else
                      passesFrom host.stage settings desk.worker.number (made + 1) room)
                      counted left) Place.ofResult) := by
              cases stops : counted.shared.stopped with
              | true =>
                  exact ⟨made + 1, counts.trans (.one (by simp [Standing.step, stops]; rfl))⟩
              | false =>
                  obtain ⟨total, rest⟩ := @ih (made + 1) (by omega) counted left
                  rw [same] at rest
                  exact ⟨total, counts.trans (.cons (by simp [Standing.step, stops]) rest)⟩
            dsimp only
            rw [if_pos rfl]
            by_cases last : made + 1 = settings.passes
            · rw [if_pos last]
              rw [Standing.counts, if_pos last] at counts same
              exact goes _ same counts
            · rw [if_neg last]
              rw [Standing.counts, if_neg last] at counts same
              exact goes _ same counts

theorem onContext_eq (stage : Stage (StateM W)) (settings : Settings) (context : Nat) :
    onContext stage settings context = (do
      openContext stage settings context
      let outcome ← attempt (passesFrom stage settings context 0 wordLimit)
      let _ ← ask stage (.dispose context)
      settle outcome) :=
  (bind_assoc _ _ _).symm

theorem reaches_onContext (desk : Desk) (world : W) :
    ∃ total, Reaches host settings ⟨0, .starting, desk, world⟩
      (Standing.does ⟨total, .starting, desk, world⟩
        (runFrom (onContext host.stage settings desk.worker.number) desk world) fun
        | .ok () => .left (.ok ())
        | .error stop => .failing stop) := by
  have opens : Reaches host settings ⟨0, .starting, desk, world⟩ _ := .one rfl
  rw [onContext_eq, runFrom_bind]
  dsimp only [Standing.step] at opens
  generalize runFrom (openContext _ _ _) desk world = opened at opens
  rcases opened with ⟨⟨stop | _, opened⟩, after⟩
  · exact ⟨0, opens⟩
  · obtain ⟨total, passes⟩ := @reaches_passesFrom _ host settings 0 wordLimit (Nat.zero_add _)
      opened after
    have same : opened.worker.number = desk.worker.number := opens.number
    have passes := opens.trans passes
    rw [same] at passes
    dsimp only
    rw [runFrom_bind, runFrom_attempt]
    generalize runFrom (passesFrom _ _ _ _ _) opened after = passed at passes
    have disposes (outcome : Except Failure Unit) (passed : Desk) (left : W)
        (passes : Reaches host settings ⟨0, .starting, desk, world⟩
          ⟨total, .passed outcome, passed, left⟩) :
        Reaches host settings ⟨0, .starting, desk, world⟩
          (Standing.does ⟨total, .starting, desk, world⟩
            (runFrom (do
              let _ ← ask host.stage (.dispose desk.worker.number)
              settle outcome) passed left) fun
            | .ok () => .left (.ok ())
            | .error stop => .failing stop) := by
      have same : passed.worker.number = desk.worker.number := passes.number
      refine passes.trans (.one ?_)
      rw [runFrom_bind]
      dsimp only [Standing.step, Standing.does]
      rw [same]
      rcases runFrom (ask host.stage (.dispose desk.worker.number)) passed left with
        ⟨⟨stop | _, _⟩, _⟩
      · rfl
      · cases outcome <;> rfl
    rcases passed with ⟨⟨(cause | cause) | _, passed⟩, left⟩
    · exact ⟨total, disposes _ _ _ passes⟩
    · exact ⟨total, passes⟩
    · exact ⟨total, disposes _ _ _ passes⟩

/-- A turn takes a worker from the start of its work to the end.  A panic stops the run, too. -/
theorem Turn.Played.reaches {record : W → List Exchange} {turn : Turn} {shared : Shared}
    {world left : W} {desk : Desk}
    (played : turn.Played host settings record shared world desk left) :
    ∃ total, Reaches host settings ⟨0, .starting, ⟨shared, turn.worker⟩, world⟩
      ⟨total, .left turn.result, { desk with
        shared := { desk.shared with
          stopped := desk.shared.stopped || turn.panicked } }, left⟩ := by
  obtain ⟨worker, result, said⟩ := turn
  obtain ⟨total, works⟩ := @reaches_onContext _ host settings ⟨shared, worker⟩ world
  have ran := played.ran
  unfold fulfil at ran
  dsimp only at ran ⊢
  rw [runFrom_bind, runFrom_attempt] at ran
  generalize runFrom (onContext _ _ _) _ world = worked at works ran
  rcases worked with ⟨⟨(cause | cause) | _, after⟩, last⟩
  · change (((.error (.failure cause), { after with
      shared := { after.shared with stopped := true } }), last) :
        (Except Stop Unit × Desk) × W) = _ at ran
    cases ran
    exact ⟨total, works.trans (.one rfl)⟩
  · cases ran
    exact ⟨total, works.trans (.one (by simp [Standing.step, Standing.does, Turn.panicked]))⟩
  · change (((.ok (), after), last) : (Except Stop Unit × Desk) × W) = _ at ran
    cases ran
    exact ⟨total, by simpa [Standing.does, Turn.panicked] using works⟩

theorem Turn.Played.departs {record : W → List Exchange} {turn : Turn} {shared current : Shared}
    {world middle left : W} {desk : Desk}
    (played : turn.Played host settings record shared world desk middle)
    (leaves : runFrom (dismiss host desk.worker)
      { desk.shared with stopped := desk.shared.stopped || turn.panicked } middle =
        ((.ok (), current), left)) :
    ∃ total, Reaches host settings ⟨0, .starting, ⟨shared, turn.worker⟩, world⟩
      ⟨total, .gone, ⟨current, desk.worker⟩, left⟩ := by
  obtain ⟨total, works⟩ := played.reaches
  refine ⟨total, works.trans (.one ?_)⟩
  dsimp only [Standing.step, Standing.dismissed]
  rw [leaves]

end Turns

end StoreBench.Run
