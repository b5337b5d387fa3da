import Mathlib.Algebra.BigOperators.Group.List.Basic
import StoreBench.Proofs.Run.Kinds

/-! The turn of a worker.

A worker runs its kinds pass after pass.  A pass makes of the store what its kinds make of it one
after the other, and a second pass changes nothing more.  A worker whose work fails stops the run,
and the workers after it call the engine for nothing but their contexts.
-/

namespace StoreBench.Run

open StoreBench.Engine (Answers Call Ordered answers_dispose answers_newContext)
open StoreBench.Latency (Recorder)

variable {W : Type}

namespace Scene

variable {scene : Scene W} {slot : Slot} {others : List Recorder} {points : Set Nat}
  {rest : Kind → Nat}

/-- The coordinates that a worker goes through. -/
abbrev region (scene : Scene W) (slot : Slot) : Set Nat :=
  scene.shape.stretch slot.space slot.start slot.share

def Between (scene : Scene W) (slot : Slot) (others : List Recorder) (points : Set Nat)
    (rest : Kind → Nat) (desk : Desk) (world : W) : Prop :=
  ∃ made later, scene.At slot others none ⟨points, made, later, rest, none⟩ desk world

theorem Between.kinds {desk : Desk} {world : W}
    (between : scene.Between slot others points rest desk world) :
    desk.worker.kinds = scene.settings.selected := by
  obtain ⟨_, _, at_⟩ := between
  exact at_.kinds

theorem Between.running {desk : Desk} {world : W}
    (between : scene.Between slot others points rest desk world) : desk.shared.stopped = false := by
  obtain ⟨_, _, at_⟩ := between
  exact at_.running

/-- The desk at the start of a kind. -/
def freshDesk (chosen : Kind) (desk : Desk) : Desk :=
  { desk with
    worker :=
      { desk.worker with
        walk := desk.worker.walk.rewind desk.worker.start
        second := desk.worker.second.map (·.rewind desk.worker.start)
        recorder := desk.worker.recorder.reset chosen desk.shared.clock } }

theorem Between.fresh {desk : Desk} {world : W}
    (between : scene.Between slot others points rest desk world) (chosen : Kind) :
    scene.At slot others (some chosen) ⟨points, 0, 0, rest, none⟩
      (freshDesk chosen desk) world := by
  obtain ⟨made, later, at_⟩ := between
  refine
    { at_ with
      walk := ?_
      second := ?_
      recording := ?_
      settled := ?_
      charged := at_.charged.reset (at_.settled rfl) chosen _
      booked := ?_ }
  · change desk.worker.walk.rewind desk.worker.start = _
    rw [at_.walk, at_.start]
    rfl
  · change desk.worker.second.map (·.rewind desk.worker.start) = _
    rw [at_.second, at_.start]
    split
    · rfl
    · rfl
  · intro kind member
    exact member
  · intro none
    cases none
  · intro fine
    exact (at_.booked fine).reset fine.1 fine.2 (at_.settled rfl) chosen _

theorem runKind_goes {chosen : Kind} (able : scene.Able slot points chosen)
    (placed : scene.Placed slot points) (context : Nat) :
    scene.Goes
      (scene.Between slot others points
        (rest + Pi.single chosen (scene.settings.charge chosen slot.share)))
      (runKind scene.host.stage scene.settings context chosen)
      fun _ => scene.Between slot others (chosen.effect (scene.region slot) points) rest := by
  unfold runKind
  refine Ensures.bind (m := fun _ => scene.At slot others (some chosen) ⟨points, 0, 0,
    rest + Pi.single chosen (scene.settings.charge chosen slot.share), none⟩)
    (Ensures.modify fun _ _ between => between.fresh chosen) fun _ => ?_
  refine Ensures.reads (fun _ _ at_ => at_.share) fun found share => ?_
  rw [share]
  refine Ensures.bind (attempt_ensures (kindSteps_goes able placed context)
    fun _ _ _ spoiled => spoiled) fun outcome => ?_
  cases outcome with
  | ok done =>
      refine Ensures.bind (m := fun _ =>
        scene.Between slot others (chosen.effect (scene.region slot) points) rest)
        (operates ?_ ?_ ?_ ?_) fun _ => Ensures.pure fun _ _ between => between
      · intro desk world given fine
        obtain ⟨made, later, at_⟩ := given
        exact ((at_.booked fine).merge fine.1 fine.2 _).1
      · intro desk world given emission merges
        obtain ⟨made, later, at_⟩ := given
        have of := at_.recording chosen rfl
        exact ⟨made, later,
          { at_ with
            recording := fun _ member => by cases member
            settled := fun _ => Recorder.merge_settled of merges
            charged := at_.charged.merge of able.selected merges
            booked := fun fine => ((at_.booked fine).merge fine.1 fine.2 _).2 }⟩
      · intro desk world next given quiet
        obtain ⟨made, later, at_⟩ := given
        exact ⟨made, later, at_.quiet quiet⟩
      · intro desk world given
        obtain ⟨made, later, at_⟩ := given
        exact at_.holds.spoil
  | error cause =>
      refine Ensures.bind (m := fun _ _ world => scene.Spoiled world)
        (operates ?_ ?_ ?_ ?_) fun _ => Ensures.throw fun _ _ spoiled => spoiled
      · exact fun _ _ spoiled fine => absurd fine spoiled.unfine
      · exact fun _ _ spoiled _ _ => spoiled
      · exact fun _ _ _ spoiled quiet => spoiled.quiet quiet
      · exact fun _ _ spoiled _ => spoiled

/-- What some kinds, one after the other, make of the coordinates held. -/
def throughout (kinds : List Kind) (region points : Set Nat) : Set Nat :=
  kinds.foldl (fun points chosen => chosen.effect region points) points

/-- Each kind finds what it needs when its time comes. -/
def AllAble (scene : Scene W) (slot : Slot) : List Kind → Set Nat → Prop
  | [], _ => True
  | chosen :: kinds, points =>
    scene.Able slot points chosen ∧
      AllAble scene slot kinds (chosen.effect (scene.region slot) points)

/-- The samples of some kinds in one pass. -/
def passCharge (settings : Settings) (kinds : List Kind) (share : Nat) : Kind → Nat :=
  (kinds.map fun chosen => Pi.single chosen (settings.charge chosen share)).sum

theorem Placed.effect (placed : scene.Placed slot points) (chosen : Kind) :
    scene.Placed slot (chosen.effect (scene.region slot) points) :=
  { placed with free := fun pairing steps => spare_notMem_effect (placed.free pairing steps) }

theorem Placed.throughout (placed : scene.Placed slot points) (kinds : List Kind) :
    scene.Placed slot (throughout kinds (scene.region slot) points) := by
  induction kinds generalizing points with
  | nil => exact placed
  | cons chosen kinds ih => exact ih (placed.effect chosen)

theorem kindsOfPass_goes {kinds : List Kind} (able : scene.AllAble slot kinds points)
    (placed : scene.Placed slot points) (context : Nat) :
    scene.Goes
      (scene.Between slot others points (rest + passCharge scene.settings kinds slot.share))
      (kindsOfPass scene.host.stage scene.settings context kinds)
      fun all desk world => all = true ∧
        scene.Between slot others (throughout kinds (scene.region slot) points) rest
          desk world := by
  induction kinds generalizing points with
  | nil => exact Ensures.pure fun _ _ between => ⟨rfl, between⟩
  | cons chosen kinds ih =>
      have split : rest + passCharge scene.settings (chosen :: kinds) slot.share =
          rest + passCharge scene.settings kinds slot.share +
            Pi.single chosen (scene.settings.charge chosen slot.share) := by
        rw [passCharge, List.map_cons, List.sum_cons, ← passCharge]
        abel
      rw [split]
      unfold kindsOfPass
      refine Ensures.reads (fun _ _ between => between.running) fun found running => ?_
      rw [running]
      refine Ensures.bind (runKind_goes able.1 placed context) fun _ => ?_
      exact ih able.2 (placed.effect chosen)

/-- What a pass makes of the coordinates held. -/
abbrev passed (scene : Scene W) (slot : Slot) (points : Set Nat) : Set Nat :=
  throughout scene.settings.selected.toList (scene.region slot) points

/-- A worker can make its passes: each finds what it needs, and they all leave the same. -/
structure Passable (scene : Scene W) (slot : Slot) (points : Set Nat) : Prop where
  placed : scene.Placed slot points
  able : scene.AllAble slot scene.settings.selected.toList points
  ableAgain : scene.AllAble slot scene.settings.selected.toList (scene.passed slot points)
  settled : scene.passed slot (scene.passed slot points) = scene.passed slot points

theorem Passable.next (passable : scene.Passable slot points) :
    scene.Passable slot (scene.passed slot points) where
  placed := passable.placed.throughout _
  able := passable.ableAgain
  ableAgain := by
    rw [passable.settled]
    exact passable.ableAgain
  settled := congrArg (scene.passed slot) passable.settled

/-- The samples of a worker in one pass. -/
abbrev need (scene : Scene W) (slot : Slot) : Kind → Nat :=
  passCharge scene.settings scene.settings.selected.toList slot.share

theorem Between.finish {desk : Desk} {world : W}
    (between : scene.Between slot others points rest desk world) (finished : Nat) :
    scene.Between slot others points rest
      { desk with shared := { desk.shared with finished } } world := by
  obtain ⟨made, later, at_⟩ := between
  exact ⟨made, later, { at_ with }⟩

theorem passesFrom_goes (context : Nat) (passable : scene.Passable slot points)
    {made left room : Nat} (whole : made + left = scene.settings.passes)
    (roomy : scene.sure → left < room) :
    scene.Goes (scene.Between slot others points (rest + left • scene.need slot))
      (passesFrom scene.host.stage scene.settings context made room)
      fun _ => scene.Between slot others (if left = 0 then points else scene.passed slot points)
        rest := by
  induction room generalizing points made left with
  | zero =>
      refine Ensures.throw ?_
      intro desk world given
      obtain ⟨made, later, at_⟩ := given
      exact at_.holds.spoil fun fine => Nat.not_lt_zero _ (roomy fine.sure)
  | succ room ih =>
      unfold passesFrom
      refine Ensures.reads (p := fun _ => True) (fun _ _ _ => trivial) fun found _ => ?_
      have another : anotherPass scene.settings found.shared made = decide (0 < left) := by
        rw [anotherPass, scene.bounded, Bool.false_and, Bool.or_false]
        congr 1
        rw [eq_iff_iff]
        omega
      rw [another]
      cases left with
      | zero =>
          rw [zero_nsmul, add_zero]
          exact Ensures.pure fun _ _ between => between
      | succ left =>
          rw [succ_nsmul, ← add_assoc, if_neg (Nat.succ_ne_zero left)]
          refine Ensures.reads (fun _ _ between => between.kinds) fun found kinds => ?_
          rw [kinds]
          refine Ensures.bindTo (kindsOfPass_goes passable.able passable.placed context) ?_
          have again := ih passable.next (by omega : made + 1 + left = scene.settings.passes)
            fun sure => Nat.lt_of_succ_lt_succ (roomy sure)
          rw [passable.settled, ite_self] at again
          have further : scene.Goes
              (scene.Between slot others (scene.passed slot points) (rest + left • scene.need slot))
              (do
                if (← get).shared.stopped then pure ()
                else passesFrom scene.host.stage scene.settings context (made + 1) room)
              fun _ => scene.Between slot others (scene.passed slot points) rest := by
            refine Ensures.reads (fun _ _ between => between.running) fun found running => ?_
            rw [running]
            exact again
          rw [if_pos rfl]
          dsimp only
          split
          · exact Ensures.bind (Ensures.modify fun _ _ between => between.finish _)
              fun _ => further
          · exact further

theorem between_asks {call : Call} {fail : Stop → Desk → W → Prop}
    (answers : Answers scene.shape scene.settings.valueSize points call (· = .ok .empty) points) :
    Ensures fail (scene.Between slot others points rest) (ask scene.host.stage call)
      fun result desk world => result = .ok .empty ∧
        scene.Between slot others points rest desk world :=
  Ensures.name fun made => Ensures.name fun later =>
    (asks_ok answers).after fun _ _ _ given => ⟨given.1, made, later, given.2⟩

/-- Something went wrong, and the run is stopped if it is `known`. -/
def Wrong (scene : Scene W) (known : Prop) (shared : Shared) (world : W) : Prop :=
  scene.Spoiled world ∧ (known → shared.stopped = true)

theorem wrong_asks {call : Call} {fail : Stop → Desk → W → Prop} (known : Prop)
    (success : ∀ engine : Ordered, (engine.answer call).1 = .success) :
    Ensures fail (fun desk => scene.Wrong known desk.shared) (ask scene.host.stage call)
      fun result desk world => result = .ok .empty ∧ scene.Wrong known desk.shared world := by
  unfold ask
  refine Ensures.bind (m := fun answer desk world =>
    answer.reply = .success ∧ scene.Wrong known desk.shared world)
    (Ensures.lift ?_) fun answer => ?_
  · intro desk world given
    obtain ⟨spoiled, halted⟩ := given
    obtain ⟨reply, _, next⟩ := spoiled.call success
    exact ⟨reply, next, halted⟩
  · refine Ensures.learn fun reply => ?_
    refine Ensures.bind (m := fun _ desk => scene.Wrong known desk.shared)
      (Ensures.modify ?_) fun _ => ?_
    · intro desk world given
      obtain ⟨spoiled, halted⟩ := given
      exact ⟨spoiled, fun sure => by simp [Shared.afterAnswer, halted sure]⟩
    · rw [reply]
      exact Ensures.pure fun _ _ wrong => ⟨rfl, wrong⟩

theorem onContext_goes (context : Nat) (passable : scene.Passable slot points)
    (some : 0 < scene.settings.passes) (roomy : scene.sure → scene.settings.passes < wordLimit) :
    scene.Goes
      (scene.Between slot others points (rest + scene.settings.passes • scene.need slot))
      (onContext scene.host.stage scene.settings context)
      fun _ => scene.Between slot others (scene.passed slot points) rest := by
  unfold onContext demand
  refine Ensures.bind (m := fun _ => scene.Between slot others points
    (rest + scene.settings.passes • scene.need slot)) ?_ fun _ => ?_
  · exact Ensures.bindTo (between_asks (answers_newContext context))
      (Ensures.pure fun _ _ between => between)
  · rw [scene.optionless]
    refine Ensures.bind (m := fun _ => scene.Between slot others points
      (rest + scene.settings.passes • scene.need slot))
      (Ensures.pure fun _ _ between => between) fun _ => ?_
    have passes := @passesFrom_goes W scene slot others points rest context passable 0 _ wordLimit
      (Nat.zero_add _) roomy
    refine Ensures.bind (attempt_ensures passes fun _ _ _ spoiled => spoiled) fun outcome => ?_
    cases outcome with
    | ok done =>
        dsimp only
        rw [if_neg (Nat.pos_iff_ne_zero.mp some)]
        exact Ensures.bindTo (between_asks (answers_dispose context))
          (Ensures.pure fun _ _ between => between)
    | error cause =>
        refine Ensures.bind (m := fun _ _ world => scene.Spoiled world) ?_ fun _ =>
          Ensures.throw fun _ _ spoiled => spoiled
        exact ((wrong_asks False fun _ => rfl).before fun _ _ spoiled =>
          ⟨spoiled, False.elim⟩).after fun _ _ _ given => given.2.1

theorem fulfil_goes (context : Nat) (passable : scene.Passable slot points)
    (some : 0 < scene.settings.passes) (roomy : scene.sure → scene.settings.passes < wordLimit) :
    Ensures (fun stop desk => scene.Wrong (∃ cause, stop = .failure cause) desk.shared)
      (scene.Between slot others points (rest + scene.settings.passes • scene.need slot))
      (fulfil scene.host.stage scene.settings context)
      fun _ => scene.Between slot others (scene.passed slot points) rest := by
  unfold fulfil
  refine Ensures.bind (attempt_ensures (onContext_goes context passable some roomy) ?_)
    fun outcome => ?_
  · intro cause desk world spoiled
    refine ⟨spoiled, ?_⟩
    intro given
    obtain ⟨failure, same⟩ := given
    cases same
  · cases outcome with
    | ok done => exact Ensures.pure fun _ _ between => between
    | error cause =>
        exact Ensures.bind (m := fun _ desk => scene.Wrong True desk.shared)
          (Ensures.modify fun _ _ spoiled => ⟨spoiled, fun _ => rfl⟩)
          fun _ => Ensures.throw fun _ _ wrong => ⟨wrong.1, fun _ => wrong.2 trivial⟩

theorem kindsOfPass_halted (context : Nat) (kinds : List Kind)
    {fail : Stop → Desk → W → Prop} :
    Ensures fail (fun desk => scene.Wrong True desk.shared)
      (kindsOfPass scene.host.stage scene.settings context kinds)
      fun _ desk => scene.Wrong True desk.shared := by
  cases kinds with
  | nil => exact Ensures.pure fun _ _ wrong => wrong
  | cons chosen kinds =>
      unfold kindsOfPass
      refine Ensures.reads (fun _ _ wrong => wrong.2 trivial) fun found stopped => ?_
      rw [stopped]
      exact Ensures.pure fun _ _ wrong => wrong

theorem passesFrom_halted (context made room : Nat) :
    Ensures (fun _ desk => scene.Wrong True desk.shared)
      (fun desk => scene.Wrong True desk.shared)
      (passesFrom scene.host.stage scene.settings context made room)
      fun _ desk => scene.Wrong True desk.shared := by
  induction room generalizing made with
  | zero => exact Ensures.throw fun _ _ wrong => wrong
  | succ room ih =>
      unfold passesFrom
      refine Ensures.reads (p := fun _ => True) (fun _ _ _ => trivial) fun found _ => ?_
      split
      · refine Ensures.reads (p := fun _ => True) (fun _ _ _ => trivial) fun found _ => ?_
        refine Ensures.bind (kindsOfPass_halted context _) fun all => ?_
        split
        · have further : Ensures (fun _ desk => scene.Wrong True desk.shared)
              (fun desk => scene.Wrong True desk.shared)
              (do
                if (← get).shared.stopped then pure ()
                else passesFrom scene.host.stage scene.settings context (made + 1) room)
              fun _ desk => scene.Wrong True desk.shared := by
            refine Ensures.reads (p := fun _ => True) (fun _ _ _ => trivial) fun found _ => ?_
            split
            · exact Ensures.pure fun _ _ wrong => wrong
            · exact ih _
          dsimp only
          split
          · exact Ensures.bind (Ensures.modify fun _ _ wrong => wrong) fun _ => further
          · exact further
        · exact Ensures.pure fun _ _ wrong => wrong
      · exact Ensures.pure fun _ _ wrong => wrong

theorem fulfil_halted (context : Nat) :
    Ensures (fun _ desk => scene.Wrong True desk.shared)
      (fun desk => scene.Wrong True desk.shared)
      (fulfil scene.host.stage scene.settings context)
      fun _ desk => scene.Wrong True desk.shared := by
  have works : Ensures (fun _ desk => scene.Wrong True desk.shared)
      (fun desk => scene.Wrong True desk.shared)
      (onContext scene.host.stage scene.settings context)
      fun _ desk => scene.Wrong True desk.shared := by
    unfold onContext demand
    refine Ensures.bind (m := fun _ desk => scene.Wrong True desk.shared) ?_ fun _ => ?_
    · exact Ensures.bindTo (wrong_asks True fun _ => rfl) (Ensures.pure fun _ _ wrong => wrong)
    · rw [scene.optionless]
      refine Ensures.bind (m := fun _ desk => scene.Wrong True desk.shared)
        (Ensures.pure fun _ _ wrong => wrong) fun _ => ?_
      refine Ensures.bind (attempt_ensures (passesFrom_halted context 0 wordLimit)
        fun _ _ _ wrong => wrong) fun outcome => ?_
      have disposes : Ensures (fun _ desk => scene.Wrong True desk.shared)
          (fun desk => scene.Wrong True desk.shared)
          (ask scene.host.stage (.dispose context))
          fun _ desk => scene.Wrong True desk.shared :=
        (wrong_asks True fun _ => rfl).after fun _ _ _ given => given.2
      cases outcome with
      | ok done => exact Ensures.bind disposes fun _ => Ensures.pure fun _ _ wrong => wrong
      | error cause => exact Ensures.bind disposes fun _ => Ensures.throw fun _ _ wrong => wrong
  unfold fulfil
  refine Ensures.bind (attempt_ensures works fun _ _ _ wrong => wrong) fun outcome => ?_
  cases outcome with
  | ok done => exact Ensures.pure fun _ _ wrong => wrong
  | error cause =>
      exact Ensures.bind (m := fun _ desk => scene.Wrong True desk.shared)
        (Ensures.modify fun _ _ wrong => ⟨wrong.1, fun _ => rfl⟩)
        fun _ => Ensures.throw fun _ _ wrong => wrong

end Scene

end StoreBench.Run
