import Mathlib.Logic.Relation
import StoreBench.Proofs.Run.Passing

/-! The effects of a worker.

All that a worker does is a chain of a few effects, and a panic only breaks the chain off.  What
every effect leaves true is therefore true at the end of the work, however it ended.
-/

namespace StoreBench.Engine

/-- The context that a call is made of. -/
def Call.context? : Call → Option Nat
  | .openStore _ | .close | .option _ => none
  | .newContext context | .contextOption context _ | .begin context _ | .next context _ _
  | .done context _ | .dispose context => some context

end StoreBench.Engine

namespace StoreBench.Run

open StoreBench.Engine (Call Exchange)
open StoreBench.Latency (Attendance Emission Hub Recorder)
open Relation (ReflTransGen)

variable {W α β : Type}

/-- What a worker with this context can do in one step. -/
inductive Effect (stage : Stage (StateM W)) (context : Nat) : Desk × W → Desk × W → Prop where
  | called {desk : Desk} {world : W} (call : Call) (own : call.context? = some context) :
      Effect stage context (desk, world)
        (desk.answered [⟨call, (stage.engine call world).1⟩], (stage.engine call world).2)
  | published {desk : Desk} {world : W} (emission : Emission) :
      Effect stage context (desk, world) (desk, (stage.publish emission world).2)
  | moved {desk : Desk} {world : W} (walk : Keys.Walk) (second : Option Keys.Walk) :
      Effect stage context (desk, world)
        ({ desk with worker := { desk.worker with walk, second } }, world)
  | started {desk : Desk} {world : W} (kind : Kind) :
      Effect stage context (desk, world) (desk.started kind, world)
  | added {desk : Desk} {world : W} (start volume : Nat) :
      Effect stage context (desk, world)
        (desk.recorded fun recorder hub now => recorder.add hub start now volume, world)
  | merged {desk : Desk} {world : W} :
      Effect stage context (desk, world) (desk.recorded Recorder.merge, world)
  | finished {desk : Desk} {world : W} :
      Effect stage context (desk, world)
        ({ desk with shared := { desk.shared with finished := desk.shared.finished + 1 } }, world)
  | stopped {desk : Desk} {world : W} :
      Effect stage context (desk, world)
        ({ desk with shared := { desk.shared with stopped := true } }, world)

/-- From this desk, the work is a chain of effects in any world. -/
def Acts (stage : Stage (StateM W)) (context : Nat) (piece : Work (StateM W) α) (desk : Desk) :
    Prop :=
  ∀ world, ReflTransGen (Effect stage context) (desk, world)
    ((runFrom piece desk world).1.2, (runFrom piece desk world).2)

/-- How a worker changes its desk by itself while it runs a kind. -/
inductive Alters : Desk → Desk → Prop where
  | moved {desk : Desk} (walk : Keys.Walk) (second : Option Keys.Walk) :
      Alters desk { desk with worker := { desk.worker with walk, second } }
  | started {desk : Desk} (kind : Kind) : Alters desk (desk.started kind)
  | added {desk : Desk} (start volume : Nat) :
      Alters desk (desk.recorded fun recorder hub now => recorder.add hub start now volume)
  | merged {desk : Desk} : Alters desk (desk.recorded Recorder.merge)

/-- How a worker changes its desk in all of its work. -/
inductive Advances : Desk → Desk → Prop where
  | alters {desk after : Desk} (alter : Alters desk after) : Advances desk after
  | finished {desk : Desk} :
      Advances desk
        { desk with shared := { desk.shared with finished := desk.shared.finished + 1 } }
  | stopped {desk : Desk} :
      Advances desk { desk with shared := { desk.shared with stopped := true } }

/-- Work on a desk is made of calls on the own context, lines, and changes of the desk. -/
inductive Conduct (stage : Stage (StateM W)) (context : Nat) (alters : Desk → Desk → Prop) :
    {α : Type} → Work (StateM W) α → Desk → Prop where
  | pure {α : Type} {desk : Desk} (value : α) :
      Conduct stage context alters (Pure.pure value) desk
  | throw {α : Type} {desk : Desk} (stop : Stop) :
      Conduct stage context alters (MonadExcept.throw stop : Work (StateM W) α) desk
  | reads {α : Type} {desk : Desk} {next : Desk → Work (StateM W) α}
      (rest : Conduct stage context alters (next desk) desk) :
      Conduct stage context alters (MonadState.get >>= next) desk
  | set {desk next : Desk} (alter : alters desk next) :
      Conduct stage context alters (MonadStateOf.set next) desk
  | modifies {desk : Desk} {change : Desk → Desk} (alter : alters desk (change desk)) :
      Conduct stage context alters (modify change) desk
  | calls {desk : Desk} (call : Call) (own : call.context? = some context) :
      Conduct stage context alters (ask stage call) desk
  | publishes {desk : Desk} (emission : Emission) :
      Conduct stage context alters (liftM (stage.publish emission)) desk
  | bind {α β : Type} {desk : Desk} {piece : Work (StateM W) α} {next : α → Work (StateM W) β}
      (first : Conduct stage context alters piece desk)
      (rest : ∀ value after, Conduct stage context alters (next value) after) :
      Conduct stage context alters (piece >>= next) desk
  | attempt {α : Type} {desk : Desk} {piece : Work (StateM W) α}
      (part : Conduct stage context alters piece desk) :
      Conduct stage context alters (Run.attempt piece) desk

variable {stage : Stage (StateM W)} {context : Nat} {desk : Desk}

namespace Acts

variable {piece : Work (StateM W) α}

theorem pure (value : α) : Acts stage context (Pure.pure value) desk := fun _ => .refl

theorem throw (stop : Stop) :
    Acts stage context (MonadExcept.throw stop : Work (StateM W) α) desk := fun _ => .refl

theorem reads {next : Desk → Work (StateM W) α} (rest : Acts stage context (next desk) desk) :
    Acts stage context (MonadState.get >>= next) desk := rest

theorem set {next : Desk} (effect : ∀ world, Effect stage context (desk, world) (next, world)) :
    Acts stage context (MonadStateOf.set next) desk := fun world => .single (effect world)

theorem modifies {change : Desk → Desk}
    (effect : ∀ world, Effect stage context (desk, world) (change desk, world)) :
    Acts stage context (modify change) desk := fun world => .single (effect world)

theorem bind {next : α → Work (StateM W) β} (first : Acts stage context piece desk)
    (rest : ∀ value after, Acts stage context (next value) after) :
    Acts stage context (piece >>= next) desk := by
  intro world
  have begun := first world
  rw [runFrom_bind]
  generalize runFrom piece desk world = ended at begun
  rcases ended with ⟨⟨stop | value, after⟩, left⟩
  · exact begun
  · exact begun.trans (rest value after left)

theorem attempt (acts : Acts stage context piece desk) :
    Acts stage context (Run.attempt piece) desk := by
  intro world
  have chain := acts world
  rw [runFrom_attempt]
  generalize runFrom piece desk world = ended at chain
  rcases ended with ⟨⟨(_ | _) | _, _⟩, _⟩
  · exact chain
  · exact chain
  · exact chain

end Acts

theorem Alters.effect {before after : Desk} {world : W} (alter : Alters before after) :
    Effect stage context (before, world) (after, world) := by
  cases alter with
  | moved walk second => exact .moved walk second
  | started kind => exact .started kind
  | added start volume => exact .added start volume
  | merged => exact .merged

theorem Advances.effect {before after : Desk} {world : W} (advance : Advances before after) :
    Effect stage context (before, world) (after, world) := by
  cases advance with
  | alters alter => exact alter.effect
  | finished => exact .finished
  | stopped => exact .stopped

namespace Conduct

variable {alters others : Desk → Desk → Prop} {piece : Work (StateM W) α}

theorem settle (outcome : Except Failure α) :
    Conduct stage context alters (Run.settle outcome) desk := by
  cases outcome with
  | ok value => exact .pure value
  | error cause => exact .throw _

theorem mono (conduct : Conduct stage context alters piece desk)
    (weaker : ∀ before after, alters before after → others before after) :
    Conduct stage context others piece desk := by
  induction conduct with
  | pure value => exact .pure value
  | throw stop => exact .throw stop
  | reads _ ih => exact .reads ih
  | set alter => exact .set (weaker _ _ alter)
  | modifies alter => exact .modifies (weaker _ _ alter)
  | calls call own => exact .calls call own
  | publishes emission => exact .publishes emission
  | bind _ _ first rest => exact first.bind rest
  | attempt _ ih => exact ih.attempt

theorem advances (conduct : Conduct stage context Alters piece desk) :
    Conduct stage context Advances piece desk :=
  conduct.mono fun _ _ => .alters

theorem acts (conduct : Conduct stage context alters piece desk)
    (effects : ∀ before after world, alters before after →
      Effect stage context (before, world) (after, world)) : Acts stage context piece desk := by
  induction conduct with
  | pure value => exact .pure value
  | throw stop => exact .throw stop
  | reads _ ih => exact .reads ih
  | set alter => exact .set fun world => effects _ _ world alter
  | modifies alter => exact .modifies fun world => effects _ _ world alter
  | calls call own =>
      intro world
      rw [runFrom_ask]
      exact .single (.called call own)
  | publishes emission => exact fun world => .single (.published emission)
  | bind _ _ first rest => exact first.bind rest
  | attempt _ ih => exact ih.attempt

end Conduct

section Steps

theorem demand_conduct (stage : Stage (StateM W)) (call : Call)
    (own : call.context? = some context) :
    Conduct stage context Alters (demand stage call) desk := by
  unfold demand
  refine (Conduct.calls call own).bind fun reply after => ?_
  cases reply with
  | ok pair => exact .pure pair
  | error cause => exact .throw _

theorem withRecorder_conduct
    {operation : Recorder → Hub → Nat → Except Panic (Option Emission) × Recorder × Hub}
    (alter : Alters desk (desk.recorded operation)) :
    Conduct stage context Alters (withRecorder stage operation) desk := by
  unfold withRecorder
  apply Conduct.reads
  unfold Desk.recorded at alter
  generalize operation desk.worker.recorder desk.shared.hub desk.shared.clock = acted at alter
  obtain ⟨result, recorder, hub⟩ := acted
  refine (Conduct.set alter).bind fun done after => ?_
  rcases result with cause | _ | emission
  · exact .throw _
  · exact .pure _
  · exact .publishes emission

theorem record_conduct (stage : Stage (StateM W)) (start volume : Nat) :
    Conduct stage context Alters (record stage start volume) desk := by
  unfold record
  split
  · exact (Conduct.throw _).bind fun _ _ => withRecorder_conduct (.added start volume)
  · exact withRecorder_conduct (.added start volume)

theorem now_conduct : Conduct stage context Alters now desk := Conduct.reads (.pure _)

theorem nextPair_conduct (keyOnly : Bool) :
    Conduct stage context Alters (nextPair keyOnly) desk := by
  unfold nextPair
  apply Conduct.reads
  cases keyOnly with
  | true => exact (Conduct.set (.moved _ desk.worker.second)).bind fun _ _ => .pure _
  | false => exact (Conduct.set (.moved _ desk.worker.second)).bind fun _ _ => .pure _

theorem nextSecond_conduct (kind : Kind) : Conduct stage context Alters (nextSecond kind) desk := by
  unfold nextSecond
  apply Conduct.reads
  cases desk.worker.second with
  | none => exact .throw _
  | some walk =>
      exact (Conduct.set (.moved desk.worker.walk (some walk.next.2))).bind fun _ _ => .pure _

variable {settings : Settings}

theorem missing_conduct (operation : String) (key : Bytes) :
    Conduct stage context Alters (missing settings operation key) desk := by
  unfold missing
  split
  · exact .pure _
  · exact .reads (.throw _)

theorem pointVerdict_conduct (kind : Kind) (key : Bytes) (ending : Except EngineError Pair)
    (outcome : Except EngineError Nat) :
    Conduct stage context Alters (pointVerdict settings kind key ending outcome) desk := by
  rcases outcome with (_ | what | reason) | volume
  · refine (missing_conduct _ _).bind fun _ _ => ?_
    cases ending with
    | ok pair => exact .pure _
    | error cause => exact .throw _
  · exact .throw _
  · exact .throw _
  · cases ending with
    | ok pair => exact .pure _
    | error cause => exact .throw _

theorem pointStep_conduct (kind : Kind) :
    Conduct stage context Alters (pointStep stage settings context kind) desk := by
  rw [pointStep_eq]
  refine (nextPair_conduct _).bind fun pair _ => now_conduct.bind fun start _ => ?_
  refine Conduct.bind ?_ fun outcome _ => (Conduct.calls _ rfl).bind fun ending _ =>
    (record_conduct stage start _).bind fun _ _ => pointVerdict_conduct kind _ _ _
  unfold pointCalls
  refine (Conduct.calls _ rfl).bind fun begun _ => ?_
  cases begun with
  | error cause => exact .pure _
  | ok opened => exact (Conduct.calls _ rfl).bind fun _ _ => .pure _

theorem pointPass_conduct (kind : Kind) (left : Nat) :
    Conduct stage context Alters (pointPass stage settings context kind left) desk := by
  induction left generalizing desk with
  | zero => exact .pure _
  | succ left ih => exact (pointStep_conduct kind).bind fun _ _ => ih

/-- The last step of a quadruple. -/
theorem quadrupleGet_conduct (a : Pair) (moved : Nat) :
    Conduct stage context Alters (do
      match ← ask stage (.next context .get a) with
      | .ok got => return moved + got.volume
      | .error .notFound =>
        missing settings "crud.get" a.key
        return moved + a.key.length
      | .error cause => throw (.failure (.engine cause)) : Work (StateM W) Nat) desk := by
  refine (Conduct.calls _ rfl).bind fun got _ => ?_
  rcases got with (_ | what | reason) | pair
  · exact (missing_conduct _ _).bind fun _ _ => .pure _
  · exact .throw _
  · exact .throw _
  · exact .pure _

theorem quadruple_conduct (a b : Pair) :
    Conduct stage context Alters (quadruple stage settings context a b) desk := by
  unfold quadruple
  refine (demand_conduct stage _ rfl).bind fun _ _ => ?_
  refine (demand_conduct stage _ rfl).bind fun _ _ => ?_
  refine (Conduct.calls _ rfl).bind fun deleted _ => ?_
  have gets (desk : Desk) :=
    @quadrupleGet_conduct _ stage context desk settings a (b.volume + a.volume + b.key.length)
  rcases deleted with (_ | what | reason) | pair
  · exact (missing_conduct _ _).bind fun _ => gets
  · exact (Conduct.throw _).bind fun _ => gets
  · exact (Conduct.throw _).bind fun _ => gets
  · exact gets _

theorem crudStep_conduct : Conduct stage context Alters (crudStep stage settings context) desk := by
  unfold crudStep
  refine (nextPair_conduct _).bind fun a _ => (nextSecond_conduct _).bind fun b _ =>
    now_conduct.bind fun start _ => ?_
  have transaction (desk : Desk) :
      Conduct stage context Alters (crudTransaction stage settings context a b) desk := by
    unfold crudTransaction
    exact (demand_conduct stage _ rfl).bind fun _ _ => (quadruple_conduct a b).bind fun _ _ =>
      (demand_conduct stage _ rfl).bind fun _ _ => .pure _
  exact (transaction _).attempt.bind fun outcome _ => (record_conduct stage start _).bind fun _ _ =>
    (Conduct.settle outcome).bind fun _ _ => .pure _

theorem crudPass_conduct (left : Nat) :
    Conduct stage context Alters (crudPass stage settings context left) desk := by
  induction left generalizing desk with
  | zero => exact .pure _
  | succ left ih => exact crudStep_conduct.bind fun _ _ => ih

theorem batchBody_conduct (left : Nat) (firsts seconds : List Pair) (last made : Nat) :
    Conduct stage context Alters (batchBody stage settings context left firsts seconds last made)
      desk := by
  induction firsts generalizing seconds last made desk with
  | nil => exact .pure _
  | cons a firsts ih =>
      cases seconds with
      | nil => exact .pure _
      | cons b seconds =>
          unfold batchBody
          refine (quadruple_conduct a b).bind fun volume _ => ?_
          split
          · exact .pure _
          · exact ih seconds volume (made + 1)

theorem nextBatch_conduct : Conduct stage context Alters (nextBatch settings) desk := by
  unfold nextBatch
  apply Conduct.reads
  rcases desk.worker.second with _ | second
  · exact .throw _
  · dsimp only
    split
    · exact (Conduct.set (.moved _ _)).bind fun _ _ => .pure _
    · exact .throw _
    · exact .throw _

theorem batchPass_conduct (left room : Nat) :
    Conduct stage context Alters (batchPass stage settings context left room) desk := by
  induction room generalizing left desk with
  | zero => exact .throw _
  | succ room ih =>
      unfold batchPass
      refine nextBatch_conduct.bind fun pairs _ => ?_
      obtain ⟨firsts, seconds⟩ := pairs
      have transaction (desk : Desk) : Conduct stage context Alters
          (batchTransaction stage settings context left firsts seconds) desk := by
        unfold batchTransaction
        exact (demand_conduct stage _ rfl).bind fun _ _ =>
          (batchBody_conduct left _ _ 0 0).bind fun _ _ =>
            (demand_conduct stage _ rfl).bind fun _ _ => .pure _
      have nominal (desk : Desk) : Conduct stage context Alters nominalBatchVolume desk :=
        Conduct.reads (.pure _)
      refine (nominal _).bind fun _ _ => now_conduct.bind fun start _ =>
        (transaction _).attempt.bind fun outcome _ => (record_conduct stage start _).bind fun _ _ =>
          (Conduct.settle outcome).bind fun result _ => ?_
      dsimp only
      split
      · exact .pure _
      · exact ih _

theorem cursorSteps_conduct (start left : Nat) :
    Conduct stage context Alters (cursorSteps stage context start left) desk := by
  induction left generalizing start desk with
  | zero => exact .pure _
  | succ left ih =>
      unfold cursorSteps
      refine (Conduct.calls _ rfl).bind fun found _ => ?_
      rcases found with (_ | what | reason) | pair
      · exact .pure _
      · exact .throw _
      · exact .throw _
      · exact (record_conduct stage start _).bind fun _ _ =>
          now_conduct.bind fun later _ => ih later

theorem iteratePass_conduct (share : Nat) :
    Conduct stage context Alters (iteratePass stage context share) desk :=
  now_conduct.bind fun start _ => (demand_conduct stage _ rfl).bind fun _ _ =>
    (cursorSteps_conduct start share).bind fun _ _ =>
      (demand_conduct stage _ rfl).bind fun _ _ => .pure _

theorem kindSteps_conduct (kind : Kind) (share : Nat) :
    Conduct stage context Alters (kindSteps stage settings context kind share) desk := by
  unfold kindSteps
  split
  · exact .pure _
  · cases kind with
    | set => exact pointPass_conduct _ _
    | get => exact pointPass_conduct _ _
    | iterate => exact iteratePass_conduct _
    | delete => exact pointPass_conduct _ _
    | batch => exact batchPass_conduct _ _
    | crud => exact crudPass_conduct _

theorem runKind_conduct (kind : Kind) :
    Conduct stage context Alters (runKind stage settings context kind) desk :=
  (Conduct.modifies (.started kind)).bind fun _ _ => .reads <|
    (kindSteps_conduct kind _).attempt.bind fun outcome _ =>
      (withRecorder_conduct .merged).bind fun _ _ => .settle outcome

theorem kindsOfPass_conduct (kinds : List Kind) :
    Conduct stage context Alters (kindsOfPass stage settings context kinds) desk := by
  induction kinds generalizing desk with
  | nil => exact .pure _
  | cons kind kinds ih =>
      unfold kindsOfPass
      apply Conduct.reads
      split
      · exact .pure _
      · exact (runKind_conduct kind).bind fun _ _ => ih

theorem passesFrom_conduct (made room : Nat) :
    Conduct stage context Advances (passesFrom stage settings context made room) desk := by
  induction room generalizing made desk with
  | zero => exact .throw _
  | succ room ih =>
      have again (desk : Desk) : Conduct stage context Advances (do
          if (← get).shared.stopped then pure ()
          else passesFrom stage settings context (made + 1) room) desk := by
        apply Conduct.reads
        split
        · exact .pure _
        · exact ih (made + 1)
      unfold passesFrom
      apply Conduct.reads
      split
      · apply Conduct.reads
        refine (kindsOfPass_conduct _).advances.bind fun all _ => ?_
        cases all with
        | false => exact .pure _
        | true =>
            rw [if_pos rfl]
            dsimp only
            split
            · exact (Conduct.modifies .finished).bind fun _ => again
            · exact again _
      · exact .pure _

theorem applyOptions_conduct (options : List String) :
    Conduct stage context Alters (applyOptions stage context options) desk := by
  induction options generalizing desk with
  | nil => exact .pure _
  | cons option options ih =>
      unfold applyOptions
      refine (Conduct.calls _ rfl).bind fun reply _ => ?_
      cases reply with
      | ok pair => exact ih
      | error cause => exact (Conduct.calls _ rfl).bind fun _ _ => .throw _

theorem onContext_conduct :
    Conduct stage context Advances (onContext stage settings context) desk :=
  (demand_conduct stage _ rfl).advances.bind fun _ _ =>
    (applyOptions_conduct _).advances.bind fun _ _ =>
    (passesFrom_conduct 0 wordLimit).attempt.bind fun outcome _ =>
      (Conduct.calls _ rfl).bind fun _ _ => .settle outcome

theorem fulfil_conduct : Conduct stage context Advances (fulfil stage settings context) desk := by
  unfold fulfil
  refine onContext_conduct.attempt.bind fun outcome _ => ?_
  cases outcome with
  | ok done => exact (Conduct.pure ()).bind fun _ _ => .settle (.ok done)
  | error cause => exact (Conduct.modifies .stopped).bind fun _ _ => .settle (.error cause)

/-- All the work of a worker is a chain of effects. -/
theorem fulfil_acts : Acts stage context (fulfil stage settings context) desk :=
  fulfil_conduct.acts fun _ _ _ => Advances.effect

end Steps

theorem Acts.keeps {piece : Work (StateM W) α} (acts : Acts stage context piece desk)
    {kept : Desk × W → Prop}
    (step : ∀ before after, Effect stage context before after → kept before → kept after)
    {world : W} (holds : kept (desk, world)) :
    kept ((runFrom piece desk world).1.2, (runFrom piece desk world).2) := by
  have chain := acts world
  generalize ((runFrom piece desk world).1.2, (runFrom piece desk world).2) = ended at chain ⊢
  induction chain with
  | refl => exact holds
  | tail _ effect ih => exact step _ _ effect ih

namespace Effect

variable {before after : Desk × W}

/-- The worker stays attached to the hub, beside the same others. -/
theorem attended {others : List Nat} (effect : Effect stage context before after)
    (attendance : Attendance before.1.shared.hub (before.1.worker.recorder.epoch :: others)) :
    Attendance after.1.shared.hub (after.1.worker.recorder.epoch :: others) := by
  cases effect with
  | called call own =>
      dsimp only [Desk.answered]
      rw [Shared.hub_answered]
      exact attendance
  | published emission => exact attendance
  | moved walk second => exact attendance
  | started kind => exact attendance
  | added start volume => exact (Recorder.add_attended _ _ _ attendance).attendance
  | merged => exact (Recorder.merge_attended _ attendance).attendance
  | finished => exact attendance
  | stopped => exact attendance

theorem number (effect : Effect stage context before after) :
    after.1.worker.number = before.1.worker.number := by
  cases effect <;> rfl

/-- A worker calls on its own context only. -/
theorem own {record : W → List Exchange} (heard : stage.Heard record) {said : List Exchange}
    (effect : Effect stage context before after)
    (owned : ∃ made, record before.2 = said ++ made ∧
      ∀ exchange ∈ made, exchange.call.context? = some context) :
    ∃ made, record after.2 = said ++ made ∧
      ∀ exchange ∈ made, exchange.call.context? = some context := by
  obtain ⟨made, earlier, mine⟩ := owned
  cases effect with
  | @called desk world call own =>
      refine ⟨made ++ [⟨call, (stage.engine call world).1⟩], ?_, ?_⟩
      · rw [heard.engine, ← List.append_assoc]
        exact congrArg (· ++ _) earlier
      · exact List.forall_mem_append.mpr ⟨mine, List.forall_mem_singleton.mpr own⟩
  | published emission => exact ⟨made, (heard.publish emission _).trans earlier, mine⟩
  | _ => exact ⟨made, earlier, mine⟩

end Effect

end StoreBench.Run
