import StoreBench.Proofs.Run.Sampling

/-! What the steps of a worker say.

Every step of a kind says one bracket and takes its samples, whatever the answers are.
-/

namespace StoreBench.Run

open StoreBench.Engine (Answer Call Exchange elapsed largest taken)

variable {W : Type} {stage : Stage (StateM W)} {settings : Settings} {r : Reckoning settings}
  {context : Nat} {kind : Kind} {desk : Desk} {said : List Exchange}

/-- The samples of a bracket. -/
def samples (kind : Kind) (made : List Exchange) : Nat :=
  if kind = .iterate then made.countP Exchange.isRecord else 1

/-- One bracket is said, its samples are taken, and the step succeeds unless an answer was not
fine. -/
structure Bracketed (r : Reckoning settings) (context : Nat) (kind : Kind) (left used : Nat)
    (desk : Desk) (made : List Exchange) (success : Bool) (after : Desk) : Prop where
  bracket : Bracket settings context left kind made used
  gains : Gains r kind made (samples kind made) desk after
  success : success = made.all (Exchange.fine settings kind)

/-- The brackets of a kind in one pass are said, and the pass succeeds unless it broke off. -/
structure Passed (r : Reckoning settings) (context : Nat) (kind : Kind) (left : Nat) (desk : Desk)
    (made : List Exchange) (outcome : Except Failure Unit) (after : Desk)
    (brackets : List (List Exchange)) : Prop where
  said : made = brackets.flatten
  run : KindRun settings context kind left brackets outcome.isOk
  gains : Gains r kind made (brackets.map (samples kind)).sum desk after

namespace Passed

variable {left used : Nat} {made more : List Exchange} {cause : Failure} {middle after : Desk}
  {outcome : Except Failure Unit} {brackets : List (List Exchange)}

theorem complete (r : Reckoning settings) (kind : Kind) (desk : Desk) :
    Passed r context kind 0 desk [] (.ok ()) desk [] where
  said := rfl
  run := .complete
  gains := Gains.refl r kind desk

theorem broken (bracketed : Bracketed r context kind (left + 1) used desk made false after)
    (cause : Failure) :
    Passed r context kind (left + 1) desk made (.error cause) after [made] where
  said := by simp
  run := .broken bracketed.bracket bracketed.success.symm
  gains := by simpa using bracketed.gains

theorem last (bracketed : Bracketed r context kind (left + 1) used desk made true after)
    (all : left + 1 ≤ used) :
    Passed r context kind (left + 1) desk made (.ok ()) after [made] where
  said := by simp
  run := .step bracketed.bracket bracketed.success.symm (Nat.sub_eq_zero_of_le all ▸ .complete)
  gains := by simpa using bracketed.gains

theorem step (bracketed : Bracketed r context kind (left + 1) used desk made true middle)
    (passed : Passed r context kind (left + 1 - used) middle more outcome after brackets) :
    Passed r context kind (left + 1) desk (made ++ more) outcome after
      (made :: brackets) where
  said := by simp [← passed.said]
  run := .step bracketed.bracket bracketed.success.symm passed.run
  gains := by simpa using bracketed.gains.trans passed.gains

end Passed

/-- A missing key is tolerated, or the answer is no error. -/
def tolerated (settings : Settings) {α : Type} : Except EngineError α → Bool
  | .ok _ => true
  | .error .notFound => settings.ignoreMissing
  | .error _ => false

theorem untolerated {cause : EngineError} (other : cause ≠ .notFound) :
    tolerated settings (.error cause : Except EngineError Nat) = false := by
  cases cause with
  | notFound => exact absurd rfl other
  | unsupported what => rfl
  | failed reason => rfl

theorem missing_yields {excused : List Exchange → Panic → Prop} (operation : String) (key : Bytes) :
    Yields stage.Heard excused (missing settings operation key) desk
      fun made outcome after => made = [] ∧ after = desk ∧
        outcome.isOk = settings.ignoreMissing := by
  unfold missing
  split
  · next ignored => exact Yields.pure ⟨rfl, rfl, ignored.symm⟩
  · next minded =>
    apply Yields.reads
    exact Yields.fails ⟨rfl, rfl, (Bool.not_eq_true _ ▸ minded : _ = false).symm⟩

theorem Resumes.missing {α : Type} {excused : List Exchange → Panic → Prop}
    {post : List Exchange → Except Failure α → Desk → Prop} {operation : String} {key : Bytes}
    {next : Unit → Work (StateM W) α}
    (ignored : settings.ignoreMissing = true → Resumes stage excused desk said (next ()) post)
    (minded : settings.ignoreMissing = false → ∀ cause,
      post said (.error cause) (desk.answered said)) :
    Resumes stage excused desk said (missing settings operation key >>= next) post := by
  apply (missing_yields operation key).bindFrom
  · rintro made cause after ⟨rfl, rfl, strict⟩
    rw [List.append_nil]
    exact minded strict.symm cause
  · rintro made done after ⟨rfl, rfl, lenient⟩
    exact ignored lenient.symm

theorem nextPair_yields {excused : List Exchange → Panic → Prop} (keyOnly : Bool) :
    Yields stage.Heard excused (nextPair keyOnly) desk fun made outcome after =>
      made = [] ∧
      (∃ pair, outcome = .ok pair ∧ pair.volume ≤ desk.worker.walk.pairSize) ∧
      ∃ walk, after = { desk with worker := { desk.worker with walk } } ∧
        walk.pairSize = desk.worker.walk.pairSize := by
  unfold nextPair
  apply Yields.reads
  cases keyOnly with
  | true =>
      exact Yields.bind (Yields.set (Yields.pure
        ⟨rfl, ⟨_, rfl, Keys.Walk.volume_nextKey_le _⟩, _, rfl, rfl⟩))
  | false =>
      exact Yields.bind (Yields.set (Yields.pure
        ⟨rfl, ⟨_, rfl, (Keys.Walk.volume_next _).le⟩, _, rfl, rfl⟩))

section Point

variable (stage settings context kind)

/-- The calls of a step of a key before its `done`. -/
def pointCalls (pair : Pair) : Work (StateM W) (Except EngineError Nat) := do
  match ← ask stage (.begin context kind) with
  | .error cause => pure (.error cause)
  | .ok _ =>
    let got ← ask stage (.next context kind pair)
    pure (got.map fun got => if kind = .delete then pair.key.length else got.volume)

/-- A step of a key that failed counts with the volume of the pair asked for. -/
def pointVolume (pair : Pair) : Except EngineError Nat → Nat
  | .ok volume => volume
  | .error _ => pair.volume

/-- What a step of a key comes to, by the results of its calls. -/
def pointVerdict (key : Bytes) (ending : Except EngineError Pair) :
    Except EngineError Nat → Work (StateM W) Unit
  | .error .notFound => do
    missing settings kind.name key
    match ending with
    | .error cause => throw (.failure (.engine cause))
    | .ok _ => pure ()
  | .error cause => throw (.failure (.engine cause))
  | .ok _ =>
    match ending with
    | .error cause => throw (.failure (.engine cause))
    | .ok _ => pure ()

theorem pointStep_eq :
    pointStep stage settings context kind =
      (do
        let pair ← nextPair (kind != .set)
        let start ← now
        let outcome ← pointCalls stage context kind pair
        let ending ← ask stage (.done context kind)
        record stage start (pointVolume pair outcome)
        pointVerdict settings kind pair.key ending outcome) := by
  unfold pointStep pointCalls
  refine congrArg _ (funext fun pair => congrArg _ (funext fun start => ?_))
  rw [bind_assoc]
  refine congrArg _ (funext fun begun => ?_)
  cases begun with
  | error cause =>
      simp only [pure_bind]
      refine bind_congr fun ending => bind_congr fun _ => ?_
      cases cause with
      | notFound => rfl
      | unsupported what => rfl
      | failed reason => rfl
  | ok opened =>
      simp only [pure_bind, bind_assoc]
      refine bind_congr fun got => bind_congr fun ending => bind_congr fun _ => ?_
      rcases got with (_ | _ | _) | _
      · rfl
      · rfl
      · rfl
      · rfl

end Point

theorem nextSecond_yields {excused : List Exchange → Panic → Prop} {walk : Keys.Walk}
    (paired : desk.worker.second = some walk) (kind : Kind) :
    Yields stage.Heard excused (nextSecond kind) desk fun made outcome after =>
      made = [] ∧ (∃ pair, outcome = .ok pair ∧ pair.volume ≤ walk.pairSize) ∧
      ∃ second : Keys.Walk,
        after = { desk with worker := { desk.worker with second := some second } } ∧
        second.pairSize = walk.pairSize := by
  unfold nextSecond
  apply Yields.reads
  rw [paired]
  exact Yields.bind (Yields.set (Yields.pure
    ⟨rfl, ⟨_, rfl, (Keys.Walk.volume_next _).le⟩, _, rfl, rfl⟩))

theorem pointVerdict_yields {excused : List Exchange → Panic → Prop} (key : Bytes)
    (ending : Except EngineError Pair) (outcome : Except EngineError Nat) :
    Yields stage.Heard excused (pointVerdict settings kind key ending outcome) desk
      fun made ended after => made = [] ∧ after = desk ∧
        ended.isOk = (tolerated settings outcome && ending.isOk) := by
  rcases outcome with (_ | what | reason) | volume
  · apply (missing_yields _ _).bindFrom
    · rintro made cause after ⟨rfl, rfl, ignored⟩
      refine ⟨rfl, rfl, ?_⟩
      rw [tolerated, ← ignored]
      rfl
    · rintro made done after ⟨rfl, rfl, ignored⟩
      have tolerates : tolerated settings (.error .notFound : Except EngineError Nat) = true :=
        ignored.symm
      rw [tolerates]
      cases ending with
      | ok pair => exact Yields.pure ⟨rfl, rfl, rfl⟩
      | error cause => exact Yields.fails ⟨rfl, rfl, rfl⟩
  · exact Yields.fails ⟨rfl, rfl, rfl⟩
  · exact Yields.fails ⟨rfl, rfl, rfl⟩
  · cases ending with
    | ok pair => exact Yields.pure ⟨rfl, rfl, rfl⟩
    | error cause => exact Yields.fails ⟨rfl, rfl, rfl⟩

theorem fine_begin {answer : Answer} {cause : EngineError} (point : kind.isPoint = true)
    (replied : answer.reply = .error cause) :
    Exchange.fine settings kind ⟨.begin context kind, answer⟩ =
      tolerated settings (.error cause : Except EngineError Nat) := by
  cases cause <;> simp [Exchange.fine, replied, tolerated, point]

theorem fine_next {pair : Pair} {answer : Answer} {cause : EngineError}
    (point : kind.isPoint = true) (replied : answer.reply = .error cause) :
    Exchange.fine settings kind ⟨.next context kind pair, answer⟩ =
      tolerated settings (.error cause : Except EngineError Nat) := by
  cases kind <;> cases cause <;> simp_all [Exchange.fine, tolerated, Kind.isPoint]

theorem fine_done {answer : Answer} {cause : EngineError} (replied : answer.reply = .error cause) :
    Exchange.fine settings kind ⟨.done context kind, answer⟩ = false := by
  cases cause <;> simp [Exchange.fine, replied]

/-- What is said of a key before its `done`, and what it comes to. -/
structure PointSaid (settings : Settings) (context : Nat) (kind : Kind) (pair : Pair)
    (made : List Exchange) (result : Except EngineError Nat) : Prop where
  opened : ∃ begun rest, made = ⟨.begin context kind, begun⟩ :: rest
  tolerates : tolerated settings result = made.all (Exchange.fine settings kind)
  volume : pointVolume pair result ≤ max pair.volume (largest made)
  bracket : ∀ left ended,
    Bracket settings context left kind (made ++ [⟨.done context kind, ended⟩]) 1

/-- The sample of a step of a key is among those of its calls. -/
theorem PointSaid.covers {pair : Pair} {made : List Exchange} {result : Except EngineError Nat}
    (point : kind.isPoint = true) (called : PointSaid settings context kind pair made result)
    (small : pair.volume ≤ r.pairSize) (answer : Answer) :
    r.Covers kind (made ++ [⟨.done context kind, answer⟩]) (pointVolume pair result) := by
  obtain ⟨begun, rest, same⟩ := called.opened
  have timed : kind ≠ .iterate := by
    rintro rfl
    cases point
  have single : settings.stride kind = 1 := if_neg (by rintro rfl; cases point)
  have few : pointVolume pair result ≤
      kind.moves * r.widest (made ++ [⟨.done context kind, answer⟩]) := by
    have one : kind.moves = 1 := by cases kind <;> trivial
    have volume := called.volume
    rw [one, Nat.one_mul, Reckoning.widest, Engine.largest_append]
    omega
  have once : 1 ≤ taken kind (made ++ [⟨.done context kind, answer⟩]) := by
    rw [same]
    exact Engine.one_le_taken timed context begun _
  have covers := Reckoning.covers once few
  rwa [single, Nat.mul_one] at covers

theorem pointCalls_yields {excused : List Exchange → Panic → Prop} (settings : Settings)
    (point : kind.isPoint = true) (pair : Pair) :
    Yields stage.Heard excused (pointCalls stage context kind pair) desk
      fun made outcome after => after = desk.answered made ∧ ∃ result, outcome = .ok result ∧
        PointSaid settings context kind pair made result := by
  have key : pair.key.length ≤ pair.volume := Nat.le_add_right _ _
  apply Resumes.start
  apply Resumes.ask
  · intro opened _ replied
    apply Resumes.ask
    · intro got found given
      apply Resumes.pure
      refine ⟨rfl, _, rfl, ⟨_, _, rfl⟩, ?_, ?_, fun left ended => .point point replied⟩
      · simp [Exchange.fine_ok replied, Exchange.fine_ok given, tolerated, Except.map]
      · rw [Engine.largest_append, Engine.largest_ok given]
        simp only [Except.map, pointVolume]
        split
        · omega
        · omega
    · intro got cause given
      apply Resumes.pure
      refine ⟨rfl, _, rfl, ⟨_, _, rfl⟩, ?_, Nat.le_max_left _ _,
        fun left ended => .point point replied⟩
      simp [Exchange.fine_ok replied, fine_next point given, Except.map]
  · intro opened cause replied
    apply Resumes.pure
    refine ⟨rfl, _, rfl, ⟨_, _, rfl⟩, ?_, Nat.le_max_left _ _,
      fun left ended => .refused point replied⟩
    simp [fine_begin point replied]

theorem pointStep_yields (ready : Ready r said kind desk) (point : kind.isPoint = true)
    (left : Nat) :
    Yields stage.Heard (since (Strain r) said) (pointStep stage settings context kind) desk
      fun made outcome => Bracketed r context kind left 1 desk made outcome.isOk := by
  have timed : kind ≠ .iterate := by
    rintro rfl
    cases point
  rw [pointStep_eq]
  apply (nextPair_yields _).bindFrom
  · rintro made cause after ⟨_, ⟨_, impossible, _⟩, _⟩
    cases impossible
  · rintro made pair after ⟨rfl, ⟨_, same, small⟩, walk, rfl, size⟩
    cases same
    have moved : Gains r kind [] 0 desk { desk with worker := { desk.worker with walk } } :=
      .moved r kind size rfl
    generalize { desk with worker := { desk.worker with walk } } = begun at moved
    have begin := moved.stays ready
    apply Yields.reads
    apply (pointCalls_yields settings point pair).bindFrom
    · rintro made cause after ⟨_, _, impossible, _⟩
      cases impossible
    · rintro made result after ⟨rfl, _, same, called⟩
      cases same
      have ends (answer : Answer) (ending : Except EngineError Pair)
          (fine : Exchange.fine settings kind ⟨.done context kind, answer⟩ = ending.isOk) :
          Resumes stage (since (Strain r) said) begun (made ++ [⟨.done context kind, answer⟩])
            (record stage begun.shared.clock (pointVolume pair result) >>= fun _ =>
              pointVerdict settings kind pair.key ending result)
            fun made outcome => Bracketed r context kind left 1 desk made outcome.isOk := by
        have covers := called.covers point (small.trans ready.within.first) answer
        apply (record_yields begin covers).bindFrom
        · rintro more cause after ⟨_, impossible, _⟩
          cases impossible
        · rintro more done after ⟨rfl, _, gains⟩
          apply (pointVerdict_yields _ _ _).mono
          rintro more outcome last ⟨rfl, rfl, same⟩
          rw [List.nil_append, List.append_nil]
          refine ⟨called.bracket left answer, ?_, ?_⟩
          · rw [samples, if_neg timed]
            simpa using moved.trans gains
          · simp [same, called.tolerates, fine]
      change Resumes stage (since (Strain r) said) begun made _
        fun made outcome => Bracketed r context kind left 1 desk made outcome.isOk
      apply Resumes.ask
      · intro answer found replied
        exact ends answer (.ok found) (Exchange.fine_ok replied)
      · intro answer cause replied
        exact ends answer (.error cause) (fine_done replied)

section Transactions

variable {α β : Type} {excused : List Exchange → Panic → Prop} {fine : Exchange → Bool}
  {script more : List Call} {good : List Exchange → α → Prop}

/-- The work follows a script and has no other effect; it fails at the first answer that is not
fine, and returns otherwise a value that is good after what was said. -/
def Performs (stage : Stage (StateM W)) (excused : List Exchange → Panic → Prop)
    (fine : Exchange → Bool) (script : List Call) (piece : Work (StateM W) α)
    (good : List Exchange → α → Prop) : Prop :=
  ∀ desk, Yields stage.Heard excused piece desk fun made outcome after =>
    after = desk.answered made ∧ Scripted fine script made outcome.isOk ∧
      ∀ value, outcome = .ok value → good made value

namespace Performs

theorem pure {value : α} (holds : good [] value) :
    Performs stage excused fine [] (Pure.pure value) good := by
  intro desk
  apply Yields.pure
  refine ⟨rfl, .complete, ?_⟩
  intro other same
  cases same
  exact holds

theorem bind {piece : Work (StateM W) α} {next : α → Work (StateM W) β}
    {better : List Exchange → β → Prop}
    (first : Performs stage excused fine script piece good)
    (rest : ∀ made value, good made value →
      Performs stage (since excused made) fine more (next value) fun further =>
        better (made ++ further)) :
    Performs stage excused fine (script ++ more) (piece >>= next) better := by
  intro desk
  apply (first desk).bindFrom
  · rintro made cause after ⟨rfl, scripted, _⟩
    exact ⟨rfl, scripted.extend more, fun _ impossible => by cases impossible⟩
  · rintro made value after ⟨rfl, scripted, holds⟩
    apply (rest made value (holds value rfl) _).mono
    rintro made outcome after ⟨rfl, further, better⟩
    exact ⟨(Desk.answered_append ..).symm, scripted.append further, better⟩

theorem demand {call : Call} (granted : ∀ answer pair, answer.reply = .ok pair →
      fine ⟨call, answer⟩ = true)
    (refused : ∀ answer cause, answer.reply = .error cause → fine ⟨call, answer⟩ = false) :
    Performs stage excused fine [call] (Run.demand stage call) fun _ _ => True := by
  intro desk
  apply (demand_yields call).mono
  rintro made outcome after ⟨answer, rfl, rfl, ⟨pair, replied, rfl⟩ | ⟨cause, replied, rfl⟩⟩
  · exact ⟨rfl, .said (granted answer pair replied) .complete, fun _ _ => trivial⟩
  · exact ⟨rfl, .cut (refused answer cause replied), fun _ _ => trivial⟩

theorem weaken {piece : Work (StateM W) α} {better : List Exchange → α → Prop}
    (performs : Performs stage excused fine script piece good)
    (weaker : ∀ made value, good made value → better made value) :
    Performs stage excused fine script piece better := by
  intro desk
  apply (performs desk).mono
  rintro made outcome after ⟨rfl, scripted, holds⟩
  exact ⟨rfl, scripted, fun value same => weaker made value (holds value same)⟩

end Performs

/-- What follows a last call that may miss its key: the bytes moved before and those of the pair
that the call returned, or of its own. -/
structure Forgiving (settings : Settings) (moved own : Nat)
    (next : Except EngineError Pair → Work (StateM W) Nat) : Prop where
  granted : ∀ pair, ∃ value ≤ moved + pair.volume, next (.ok pair) = pure value
  missed : ∃ operation key, ∃ value ≤ moved + own,
    next (.error .notFound) = missing settings operation key >>= fun _ => pure value
  refused : ∀ cause, cause ≠ .notFound → next (.error cause) = throw (.failure (.engine cause))

theorem Forgiving.performs {next : Except EngineError Pair → Work (StateM W) Nat} {call : Call}
    {moved own : Nat} (forgiving : Forgiving settings moved own next)
    (granted : ∀ answer pair, answer.reply = .ok pair → fine ⟨call, answer⟩ = true)
    (lenient : ∀ answer cause, answer.reply = .error cause →
      fine ⟨call, answer⟩ = tolerated settings (.error cause : Except EngineError Nat)) :
    Performs stage excused fine [call] (ask stage call >>= next)
      fun made value => value ≤ moved + max own (largest made) := by
  intro desk
  apply Resumes.start
  apply Resumes.ask
  · intro answer pair replied
    obtain ⟨value, few, same⟩ := forgiving.granted pair
    rw [same]
    refine Resumes.pure ⟨rfl, .said (granted answer pair replied) .complete, ?_⟩
    rintro _ ⟨⟩
    rw [List.nil_append, Engine.largest_ok replied]
    omega
  · intro answer cause replied
    have verdict := lenient answer cause replied
    by_cases absent : cause = .notFound
    · cases absent
      obtain ⟨operation, key, value, few, same⟩ := forgiving.missed
      rw [same]
      apply Resumes.missing
      · intro ignored
        refine Resumes.pure ⟨rfl, .said (verdict.trans ignored) .complete, ?_⟩
        rintro _ ⟨⟩
        exact few.trans (Nat.add_le_add_left (Nat.le_max_left _ _) _)
      · intro minded cause
        exact ⟨rfl, .cut (verdict.trans minded), nofun⟩
    · rw [forgiving.refused cause absent]
      exact Resumes.fails ⟨rfl, .cut (verdict.trans (untolerated absent)), nofun⟩

theorem Performs.resumes {script more : List Call} {said : List Exchange} {desk : Desk}
    {piece : Work (StateM W) α} {better : List Exchange → α → Prop}
    (performs : Performs stage (since excused said) fine more piece good)
    (complete : ∀ {made whole}, Scripted fine more made whole →
      Scripted fine script (said ++ made) whole)
    (weaker : ∀ made value, good made value → better (said ++ made) value) :
    Resumes stage excused desk said piece fun made outcome after =>
      after = desk.answered made ∧ Scripted fine script made outcome.isOk ∧
        ∀ value, outcome = .ok value → better made value := by
  apply (performs (desk.answered said)).mono
  rintro made outcome after ⟨rfl, scripted, holds⟩
  exact ⟨(Desk.answered_append ..).symm, complete scripted,
    fun value same => weaker made value (holds value same)⟩

theorem fine_stored (transaction : kind = .crud ∨ kind = .batch) {pair : Pair} {answer : Answer}
    {cause : EngineError} (replied : answer.reply = .error cause) :
    Exchange.fine settings kind ⟨.next context .set pair, answer⟩ = false := by
  rcases transaction with rfl | rfl
  · cases cause <;> simp [Exchange.fine, replied]
  · cases cause <;> simp [Exchange.fine, replied]

/-- A missing pair is tolerated in a transaction where the settings say so. -/
theorem fine_tolerated (transaction : kind = .crud ∨ kind = .batch) {step : Kind}
    (reads : step ≠ .set) {pair : Pair} {answer : Answer} {cause : EngineError}
    (replied : answer.reply = .error cause) :
    Exchange.fine settings kind ⟨.next context step pair, answer⟩ =
      tolerated settings (.error cause : Except EngineError Nat) := by
  rcases transaction with rfl | rfl
  · cases cause <;> simp [Exchange.fine, replied, tolerated, reads]
  · cases cause <;> simp [Exchange.fine, replied, tolerated, reads]

theorem forgiving_get {a b : Pair} {next : Except EngineError Pair → Work (StateM W) Nat}
    (granted : ∀ got, next (.ok got) = pure (b.volume + a.volume + b.key.length + got.volume))
    (missed : next (.error .notFound) = missing settings "crud.get" a.key >>= fun _ =>
      pure (b.volume + a.volume + b.key.length + a.key.length))
    (refused : ∀ cause, cause ≠ .notFound →
      next (.error cause) = throw (.failure (.engine cause))) :
    Forgiving settings (b.volume + a.volume + b.key.length) a.volume next where
  granted got := ⟨_, le_rfl, granted got⟩
  missed := ⟨_, _, _, Nat.add_le_add_left (Nat.le_add_right _ _) _, missed⟩
  refused := refused

/-- The bytes of a quadruple, if the last step may have returned so many. -/
def quadrupleVolume (a b : Pair) (bytes : Nat) : Nat :=
  b.volume + a.volume + b.key.length + max a.volume bytes

theorem nominalVolume_le (a b : Pair) (bytes : Nat) :
    nominalVolume a b ≤ quadrupleVolume a b bytes :=
  Nat.add_le_add_left (Nat.le_max_left _ _) _

theorem quadrupleVolume_mono (a b : Pair) {bytes more : Nat} (fewer : bytes ≤ more) :
    quadrupleVolume a b bytes ≤ quadrupleVolume a b more :=
  Nat.add_le_add_left (max_le_max_left _ fewer) _

theorem quadrupleVolume_le {a b : Pair} {bytes : Nat} (first : a.volume ≤ bytes)
    (second : b.volume ≤ bytes) (more : Nat) : quadrupleVolume a b more ≤ 4 * max bytes more := by
  have key : b.key.length ≤ b.volume := Nat.le_add_right _ _
  unfold quadrupleVolume
  omega

theorem quadruple_performs (transaction : kind = .crud ∨ kind = .batch) (a b : Pair) :
    Performs stage excused (Exchange.fine settings kind) (quadrupleCalls context (a, b))
      (quadruple stage settings context a b)
      fun made volume => volume ≤ quadrupleVolume a b (largest made) := by
  intro desk
  unfold quadruple
  apply Resumes.start
  apply Resumes.demand
  · intro first _ stored
    apply Resumes.demand
    · intro second _ given
      have breaks (third : Answer)
          (unfine : Exchange.fine settings kind ⟨.next context .delete b, third⟩ = false) :
          Scripted (Exchange.fine settings kind) (quadrupleCalls context (a, b))
            [⟨.next context .set b, first⟩, ⟨.next context .set a, second⟩,
              ⟨.next context .delete b, third⟩] false :=
        .said (Exchange.fine_ok stored) (.said (Exchange.fine_ok given) (.cut unfine))
      have last (third : Answer)
          (fine : Exchange.fine settings kind ⟨.next context .delete b, third⟩ = true)
          (next : Except EngineError Pair → Work (StateM W) Nat)
          (forgiving : Forgiving settings (b.volume + a.volume + b.key.length) a.volume next) :
          Resumes stage excused desk
            [⟨.next context .set b, first⟩, ⟨.next context .set a, second⟩,
              ⟨.next context .delete b, third⟩]
            (ask stage (.next context .get a) >>= next)
            fun made outcome after => after = desk.answered made ∧
              Scripted (Exchange.fine settings kind) (quadrupleCalls context (a, b)) made
                outcome.isOk ∧
              ∀ volume, outcome = .ok volume → volume ≤ quadrupleVolume a b (largest made) := by
        apply (forgiving.performs (fun _ _ found => Exchange.fine_ok found)
          (fun _ _ => fine_tolerated transaction (by decide))).resumes
        · intro made whole scripted
          exact .said (Exchange.fine_ok stored)
            (.said (Exchange.fine_ok given) (.said fine scripted))
        · intro made value few
          refine few.trans (quadrupleVolume_mono a b ?_)
          rw [Engine.largest_append]
          exact Nat.le_max_right _ _
      apply Resumes.ask
      · intro third _ found
        refine last third (Exchange.fine_ok found) _ (forgiving_get (fun _ => rfl) rfl ?_)
        exact fun cause _ => by cases cause <;> trivial
      · intro third cause replied
        have verdict : Exchange.fine settings kind ⟨.next context .delete b, third⟩ =
            tolerated settings (.error cause : Except EngineError Nat) :=
          fine_tolerated transaction (by decide) replied
        cases cause with
        | notFound =>
            apply Resumes.missing
            · intro ignored
              refine last third (verdict.trans ignored) _ (forgiving_get (fun _ => rfl) rfl ?_)
              exact fun cause _ => by cases cause <;> trivial
            · exact fun minded cause => ⟨rfl, breaks third (verdict.trans minded), nofun⟩
        | unsupported what => exact Resumes.failsThen ⟨rfl, breaks third verdict, nofun⟩
        | failed reason => exact Resumes.failsThen ⟨rfl, breaks third verdict, nofun⟩
    · intro second cause refused
      exact ⟨rfl, .said (Exchange.fine_ok stored) (.cut (fine_stored transaction refused)),
        nofun⟩
  · intro first cause refused
    exact ⟨rfl, .cut (fine_stored transaction refused), nofun⟩

theorem strict_bracket {call : Call}
    (outer : call = .begin context kind ∨ call = .done context kind)
    (many : kind.isPoint = false) {answer : Answer} {cause : EngineError}
    (replied : answer.reply = .error cause) :
    Exchange.fine settings kind ⟨call, answer⟩ = false := by
  rcases outer with rfl | rfl
  · cases cause <;> simp [Exchange.fine, replied, many]
  · exact fine_done replied

/-- What is done between `begin` and `done` makes a transaction. -/
theorem transaction_performs (many : kind.isPoint = false) {pairs : List (Pair × Pair)}
    {body : Work (StateM W) α}
    (performs : ∀ {excused}, Performs stage excused (Exchange.fine settings kind)
      (pairs.flatMap (quadrupleCalls context)) body good)
    (around : ∀ before made after value, good made value → good (before ++ (made ++ after)) value) :
    Performs stage excused (Exchange.fine settings kind) (transactionCalls context kind pairs)
      (do
        let _ ← demand stage (.begin context kind)
        let result ← body
        let _ ← demand stage (.done context kind)
        return result) good := by
  have opens : Performs stage excused (Exchange.fine settings kind) [.begin context kind]
      (demand stage (.begin context kind)) fun _ _ => True :=
    .demand (fun _ _ granted => Exchange.fine_ok granted)
      fun _ _ refused => strict_bracket (.inl rfl) many refused
  have closes {excused : List Exchange → Panic → Prop} :
      Performs stage excused (Exchange.fine settings kind) [.done context kind]
        (demand stage (.done context kind)) fun _ _ => True :=
    .demand (fun _ _ granted => Exchange.fine_ok granted)
      fun _ _ refused => strict_bracket (.inr rfl) many refused
  apply opens.bind
  intro begun opened _
  apply performs.bind
  intro made result holds
  change Performs stage _ _ ([.done context kind] ++ []) _ _
  apply closes.bind
  intro ended closed _
  apply Performs.pure
  rw [List.append_nil]
  exact around begun made ended result holds

/-- A transaction is tried, and its sample is taken whatever became of it. -/
theorem tried_yields {script : List Call} (ready : Ready r said kind desk)
    {piece : Work (StateM W) α}
    (performs : Performs stage (since (Strain r) said) (Exchange.fine settings kind) script piece
      good) (volume : Except Failure α → Nat)
    (covers : ∀ made outcome, Scripted (Exchange.fine settings kind) script made outcome.isOk →
      (∀ value, outcome = .ok value → good made value) → r.Covers kind made (volume outcome))
    {next : α → Work (StateM W) β} {post : List Exchange → Except Failure β → Desk → Prop}
    (broken : ∀ made cause after, Scripted (Exchange.fine settings kind) script made false →
      Gains r kind made 1 desk after → post made (.error cause) after)
    (went : ∀ made value after, Scripted (Exchange.fine settings kind) script made true →
      good made value → Gains r kind made 1 desk after →
        Yields stage.Heard (since (Strain r) (said ++ made)) (next value) after
          fun more => post (made ++ more)) :
    Yields stage.Heard (since (Strain r) said)
      (do
        let outcome ← attempt piece
        record stage desk.shared.clock (volume outcome)
        let value ← settle outcome
        next value) desk post := by
  apply Yields.bind
  apply Yields.attempt
  apply (performs desk).mono
  rintro made outcome after ⟨rfl, scripted, holds⟩
  dsimp only
  apply (record_yields ready (covers made outcome scripted holds)).bindFrom
  · rintro more cause after ⟨_, impossible, _⟩
    cases impossible
  · rintro more done after ⟨rfl, _, gains⟩
    cases outcome with
    | ok value =>
        have rest := went made value after scripted (holds value rfl) gains
        rw [← since_append] at rest
        exact Yields.pureThen rest
    | error cause =>
        apply Yields.bind
        apply Yields.fails
        rw [List.nil_append, List.append_nil]
        exact broken made cause after scripted gains

/-- A transaction begins with its `begin`, whatever becomes of it. -/
theorem Scripted.opens {pairs : List (Pair × Pair)} {made : List Exchange} {whole : Bool}
    (said : Scripted fine (transactionCalls context kind pairs) made whole) :
    ∃ begun rest, made = ⟨.begin context kind, begun⟩ :: rest := by
  cases said with
  | cut unfine => exact ⟨_, _, rfl⟩
  | said well rest => exact ⟨_, _, rfl⟩

theorem Scripted.covers {pairs : List (Pair × Pair)} {made : List Exchange} {whole : Bool}
    (said : Scripted fine (transactionCalls context kind pairs) made whole)
    (counted : kind ≠ .iterate) {volume : Nat} (few : volume ≤ kind.moves * r.widest made) :
    r.Covers kind made (volume * settings.stride kind) := by
  obtain ⟨begun, rest, rfl⟩ := said.opens
  exact Reckoning.covers (Engine.one_le_taken counted context begun rest) few

theorem crudStep_yields (ready : Ready r said .crud desk) (left : Nat) :
    Yields stage.Heard (since (Strain r) said) (crudStep stage settings context) desk
      fun made outcome => Bracketed r context .crud left 1 desk made outcome.isOk := by
  obtain ⟨second, paired⟩ := Option.isSome_iff_exists.mp (ready.paired (by decide))
  unfold crudStep
  apply (nextPair_yields _).bindFrom
  · rintro made cause after ⟨_, ⟨_, impossible, _⟩, _⟩
    cases impossible
  rintro made a after ⟨rfl, ⟨_, same, small⟩, walk, rfl, size⟩
  cases same
  have kept : ({ desk with worker := { desk.worker with walk } } : Desk).worker.second =
      some second := paired
  apply (nextSecond_yields kept _).bindFrom
  · rintro made cause after ⟨_, ⟨_, impossible, _⟩, _⟩
    cases impossible
  rintro made b after ⟨rfl, ⟨_, same, smallToo⟩, further, rfl, sizeToo⟩
  cases same
  have moved : Gains r .crud [] 0 desk
      { desk with worker := { desk.worker with walk, second := some further } } :=
    .moved r .crud size (by rw [paired, Option.map_some, Option.map_some, sizeToo])
  have few := quadrupleVolume_le (small.trans ready.within.first)
    (smallToo.trans (ready.within.second second paired))
  apply Yields.reads
  have performs {excused : List Exchange → Panic → Prop} :
      Performs stage excused (Exchange.fine settings .crud)
        (transactionCalls context .crud [(a, b)]) (crudTransaction stage settings context a b)
        fun made volume => volume ≤ quadrupleVolume a b (largest made) := by
    apply transaction_performs rfl
    · intro excused
      rw [List.flatMap_singleton]
      exact quadruple_performs (.inl rfl) a b
    · intro before made after value few
      refine few.trans (quadrupleVolume_mono a b ?_)
      simp only [Engine.largest_append]
      omega
  apply tried_yields (moved.stays ready) performs
  · intro made outcome scripted holds
    refine (Nat.mul_one _ ▸ scripted.covers (by simp) ?_ : _)
    cases outcome with
    | ok volume => exact (holds volume rfl).trans (few _)
    | error cause => exact (nominalVolume_le a b _).trans (few _)
  · intro made cause after scripted gains
    exact ⟨.crud (a, b) scripted, moved.trans gains, scripted.whole_eq⟩
  · intro made value after scripted _ gains
    apply Yields.pure
    rw [List.append_nil]
    exact ⟨.crud (a, b) scripted, moved.trans gains, scripted.whole_eq⟩

end Transactions

end StoreBench.Run
