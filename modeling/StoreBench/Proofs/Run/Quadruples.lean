import StoreBench.Proofs.Keys.Stretches
import StoreBench.Proofs.Run.Counting
import StoreBench.Proofs.Run.Records

/-! The quadruples of a pass.

A pass of crud has one quadruple in a transaction, and a pass of batch has as many as a batch is
long; only the last batch may be shorter.  Apart from that the two make the same calls, for the pairs
that two walks hand out side by side.
-/

namespace StoreBench.Keys.Walk

/-- The pairs that the walks through two neighbouring spaces hand out side by side. -/
def beside (shape : Shape) (valueSize space start : Nat) : Nat → Nat → List (Pair × Pair)
  | _, 0 => []
  | steps, count + 1 =>
    (shape.pairAt (shape.spot space start steps) valueSize 0,
      shape.pairAt (shape.spot (space + 1) start steps) valueSize 0) ::
        beside shape valueSize space start (steps + 1) count

variable {shape : Shape} {valueSize space start steps : Nat}

theorem zip_ahead (count : Nat) : (ahead shape valueSize space start steps count).zip
    (ahead shape valueSize (space + 1) start steps count) =
      beside shape valueSize space start steps count := by
  induction count generalizing steps with
  | zero => rfl
  | succ count ih => rw [ahead, ahead, List.zip_cons_cons, ih, beside]

theorem length_beside (count : Nat) :
    (beside shape valueSize space start steps count).length = count := by
  induction count generalizing steps with
  | zero => rfl
  | succ count ih => rw [beside, List.length_cons, ih]

theorem beside_add (count more : Nat) :
    beside shape valueSize space start steps (count + more) =
      beside shape valueSize space start steps count ++
        beside shape valueSize space start (steps + count) more := by
  induction count generalizing steps with
  | zero => rw [Nat.zero_add, Nat.add_zero, beside, List.nil_append]
  | succ count ih =>
      rw [Nat.succ_add, beside, beside, ih, List.cons_append, Nat.add_assoc, Nat.add_comm 1 count]

theorem take_beside (count few : Nat) :
    (beside shape valueSize space start steps count).take few =
      beside shape valueSize space start steps (min few count) := by
  induction count generalizing steps few with
  | zero => rw [Nat.min_zero, beside, List.take_nil]
  | succ count ih =>
      cases few with
      | zero => rw [Nat.zero_min, List.take_zero, beside]
      | succ few => rw [Nat.succ_min_succ, beside, beside, List.take_succ_cons, ih]

theorem key_ne_of_mem_beside (sound : shape.Sound) (inside : space + 1 < shape.spaces) {count : Nat}
    {pairs : Pair × Pair} (member : pairs ∈ beside shape valueSize space start steps count) :
    pairs.1.key ≠ pairs.2.key := by
  induction count generalizing steps with
  | zero => cases member
  | succ count ih =>
      rcases List.mem_cons.mp member with rfl | later
      · intro same
        have spot := sound.keyAt_injective (sound.spot_lt (by omega)) (sound.spot_lt inside) same
        have spaces := congrArg (· / shape.period) spot
        simp only [sound.spot_div] at spaces
        omega
      · exact ih later

end StoreBench.Keys.Walk

namespace StoreBench.Run

open StoreBench.Engine (Call Exchange)
open StoreBench.Keys (Shape Walk)

/-- Some pairs in groups of this length; the last group may be shorter, but it is not empty. -/
inductive Grouped (length : Nat) : List (Pair × Pair) → List (List (Pair × Pair)) → Prop where
  | last {group : List (Pair × Pair)} (some : group ≠ []) (few : group.length ≤ length) :
      Grouped length group [group]
  | full {group rest : List (Pair × Pair)} {groups : List (List (Pair × Pair))}
      (all : group.length = length) (further : Grouped length rest groups) :
      Grouped length (group ++ rest) (group :: groups)

namespace Grouped

variable {length : Nat} {pairs : List (Pair × Pair)} {groups : List (List (Pair × Pair))}

theorem flatten (grouped : Grouped length pairs groups) : groups.flatten = pairs := by
  induction grouped with
  | last some few => exact List.flatten_singleton
  | full all further ih => rw [List.flatten_cons, ih]

theorem groups_ne_nil (grouped : Grouped length pairs groups) : groups ≠ [] := by
  cases grouped <;> exact List.cons_ne_nil _ _

theorem count (grouped : Grouped length pairs groups) (positive : 0 < length) :
    groups.length = batchesFor length pairs.length := by
  induction grouped with
  | @last group some few =>
      have whole := List.length_pos_iff.mpr some
      rw [Scene.batchesFor_succ positive whole, Nat.min_eq_left few, Nat.sub_self,
        batchesFor_zero positive]
      rfl
  | @full group rest groups all further ih =>
      have longer : length ≤ (group ++ rest).length := by
        rw [List.length_append]
        omega
      have left : (group ++ rest).length - length = rest.length := by
        rw [List.length_append]
        omega
      rw [Scene.batchesFor_succ positive (Nat.lt_of_lt_of_le positive longer),
        Nat.min_eq_right longer, left, List.length_cons, ih]

theorem full_of_mem_dropLast (grouped : Grouped length pairs groups) :
    ∀ group ∈ groups.dropLast, group.length = length := by
  induction grouped with
  | last some few => exact nofun
  | full all further ih =>
      rw [List.dropLast_cons_of_ne_nil further.groups_ne_nil]
      intro group member
      rcases List.mem_cons.mp member with rfl | member
      · exact all
      · exact ih group member

theorem some_of_mem_getLast? (grouped : Grouped length pairs groups) :
    ∀ group ∈ groups.getLast?, 0 < group.length ∧ group.length ≤ length := by
  induction grouped with
  | last some few =>
      rintro group ⟨rfl⟩
      exact ⟨List.length_pos_iff.mpr some, few⟩
  | full all further ih =>
      rw [List.getLast?_cons_of_ne_nil further.groups_ne_nil]
      exact ih

end Grouped

section Walks

variable {shape : Shape} {valueSize space start steps length left : Nat}

theorem beside_ne_nil (some : 0 < left) :
    Walk.beside shape valueSize space start steps left ≠ [] := by
  rw [← List.length_pos_iff, Walk.length_beside]
  exact some

/-- The pairs of a walk with `left` of them to go, in groups; the first has as many as it can. -/
theorem exists_grouped (positive : 0 < length) (some : 0 < left) :
    ∃ groups, Grouped length (Walk.beside shape valueSize space start steps left)
      (Walk.beside shape valueSize space start steps (min left length) :: groups) := by
  induction left using Nat.strongRecOn generalizing steps with
  | ind left ih =>
      rcases Nat.lt_or_ge length left with more | enough
      · obtain ⟨rest, rfl⟩ := Nat.exists_eq_add_of_le more.le
        obtain ⟨groups, grouped⟩ := @ih rest (by omega) (steps + length) (by omega)
        rw [Walk.beside_add, Nat.min_eq_right (Nat.le_add_right length rest)]
        exact ⟨_, .full (Walk.length_beside length) grouped⟩
      · rw [Nat.min_eq_left enough]
        refine ⟨[], .last (beside_ne_nil some) ?_⟩
        rw [Walk.length_beside]
        exact enough

end Walks

variable {W : Type} {stage : Stage (StateM W)} {settings : Settings} {context : Nat} {kind : Kind}
  {shape : Shape} {space start steps later : Nat} {desk : Desk}

/-- The walks of the worker are some steps from the start, in a space and in the one after it. -/
structure Desk.Poised (settings : Settings) (shape : Shape) (space start steps later : Nat)
    (desk : Desk) : Prop where
  first : desk.worker.walk = .along shape settings.valueSize space start steps
  second : desk.worker.second = some (.along shape settings.valueSize (space + 1) start later)

section Steps

theorem withRecorder_aside
    (operation : Latency.Recorder → Latency.Hub → Nat →
      Except Panic (Option Latency.Emission) × Latency.Recorder × Latency.Hub) :
    Yields stage.Heard anyhow (withRecorder stage operation) desk
      fun made outcome after => made = [] ∧ outcome = .ok () ∧
        after.worker.walk = desk.worker.walk ∧ after.worker.second = desk.worker.second := by
  unfold withRecorder
  apply Yields.reads
  dsimp only
  generalize operation desk.worker.recorder desk.shared.hub desk.shared.clock = acted
  obtain ⟨result, recorder, hub⟩ := acted
  apply Yields.bind
  apply Yields.set
  rcases result with cause | _ | emission
  · exact Yields.panics trivial
  · exact Yields.pure ⟨rfl, rfl, rfl, rfl⟩
  · exact Yields.lift (fun record heard => heard.publish emission) fun _ => ⟨rfl, rfl, rfl, rfl⟩

theorem record_poised (poised : desk.Poised settings shape space start steps later)
    (begun volume : Nat) :
    Yields stage.Heard anyhow (record stage begun volume) desk
      fun made outcome after => made = [] ∧ outcome = .ok () ∧
        after.Poised settings shape space start steps later := by
  unfold record
  split
  · exact Yields.bind (Yields.panics trivial)
  · apply (withRecorder_aside _).mono
    rintro made outcome after ⟨rfl, rfl, first, second⟩
    exact ⟨rfl, rfl, first.trans poised.first, second.trans poised.second⟩

theorem nextPair_poised (poised : desk.Poised settings shape space start steps later) :
    Yields stage.Heard anyhow (nextPair false) desk fun made outcome after =>
      made = [] ∧
      outcome = .ok (shape.pairAt (shape.spot space start steps) settings.valueSize 0) ∧
      after.Poised settings shape space start (steps + 1) later := by
  unfold nextPair
  apply Yields.reads
  rw [poised.first]
  dsimp only
  rw [if_neg Bool.false_ne_true, Walk.next_along]
  exact Yields.bind (Yields.set (Yields.pure ⟨rfl, rfl, rfl, poised.second⟩))

theorem nextSecond_poised (poised : desk.Poised settings shape space start steps later) :
    Yields stage.Heard anyhow (nextSecond kind) desk fun made outcome after =>
      made = [] ∧
      outcome = .ok (shape.pairAt (shape.spot (space + 1) start later) settings.valueSize 0) ∧
      after.Poised settings shape space start steps (later + 1) := by
  unfold nextSecond
  apply Yields.reads
  rw [poised.second]
  dsimp only
  rw [Walk.next_along]
  exact Yields.bind (Yields.set (Yields.pure ⟨rfl, rfl, poised.first, rfl⟩))

/-- The pools of a batch are full, or they cannot be addressed. -/
theorem nextBatch_poised (poised : desk.Poised settings shape space start steps later) :
    Yields stage.Heard anyhow (nextBatch settings) desk fun made outcome after =>
      made = [] ∧
      outcome = .ok (Walk.ahead shape settings.valueSize space start steps settings.batchLength,
        Walk.ahead shape settings.valueSize (space + 1) start later settings.batchLength) ∧
      after.Poised settings shape space start (steps + settings.batchLength)
        (later + settings.batchLength) := by
  unfold nextBatch
  apply Yields.reads
  rw [poised.first, poised.second]
  dsimp only
  by_cases small : settings.batchLength * (shape.keySize + settings.valueSize) < wordLimit / 2
  · rw [Walk.pool_along small, Walk.pool_along small]
    exact Yields.bind (Yields.set (Yields.pure ⟨rfl, rfl, rfl, rfl⟩))
  · obtain ⟨cause, failed⟩ := @Walk.pool_along_error shape settings.valueSize space start steps
      settings.batchLength small
    rw [failed]
    exact Yields.panics trivial

/-- A transaction is tried, and the walks stay where they are. -/
theorem tried_poised {α β : Type} {script : List Call} {good : List Exchange → α → Prop}
    (poised : desk.Poised settings shape space start steps later) {piece : Work (StateM W) α}
    (performs : Performs stage anyhow (Exchange.fine settings kind) script piece good)
    (begun : Nat) (volume : Except Failure α → Nat) {next : α → Work (StateM W) β}
    {post : List Exchange → Except Failure β → Desk → Prop}
    (broken : ∀ made cause after, Scripted (Exchange.fine settings kind) script made false →
      post made (.error cause) after)
    (went : ∀ made value after, Scripted (Exchange.fine settings kind) script made true →
      good made value → after.Poised settings shape space start steps later →
        Yields stage.Heard anyhow (next value) after fun more => post (made ++ more)) :
    Yields stage.Heard anyhow
      (do
        let outcome ← attempt piece
        record stage begun (volume outcome)
        let value ← settle outcome
        next value) desk post := by
  apply Yields.bind
  apply Yields.attempt
  apply (performs desk).mono
  rintro made outcome after ⟨rfl, scripted, holds⟩
  have kept : (desk.answered made).Poised settings shape space start steps later :=
    ⟨poised.first, poised.second⟩
  apply (record_poised kept begun _).bindFrom
  · rintro more cause after ⟨_, impossible, _⟩
    cases impossible
  · rintro more done after ⟨rfl, _, still⟩
    cases outcome with
    | ok value => exact Yields.pureThen (went made value after scripted (holds value rfl) still)
    | error cause =>
        apply Yields.bind
        apply Yields.fails
        rw [List.nil_append, List.append_nil]
        exact broken made cause after scripted

/-- What is left of a pass follows a script of transactions of so many quadruples. -/
def Follows (settings : Settings) (context : Nat) (kind : Kind) (length : Nat)
    (pairs : List (Pair × Pair)) (made : List Exchange) (whole : Bool) : Prop :=
  ∃ groups, Grouped length pairs groups ∧ Scripted (Exchange.fine settings kind)
    (groups.flatMap (transactionCalls context kind)) made whole

theorem Follows.first {length : Nat} {group pairs : List (Pair × Pair)} {made : List Exchange}
    (broken : Scripted (Exchange.fine settings kind) (transactionCalls context kind group) made false)
    (rest : ∃ groups, Grouped length pairs (group :: groups)) :
    Follows settings context kind length pairs made false := by
  obtain ⟨groups, grouped⟩ := rest
  refine ⟨_, grouped, ?_⟩
  rw [List.flatMap_cons]
  exact broken.extend _

theorem Follows.last {length : Nat} {group : List (Pair × Pair)} {made : List Exchange}
    {whole : Bool} (some : group ≠ []) (few : group.length ≤ length)
    (said : Scripted (Exchange.fine settings kind) (transactionCalls context kind group) made whole) :
    Follows settings context kind length group made whole := by
  refine ⟨[group], .last some few, ?_⟩
  rw [List.flatMap_singleton]
  exact said

theorem Follows.step {length : Nat} {group pairs : List (Pair × Pair)} {made more : List Exchange}
    {whole : Bool} (all : group.length = length)
    (said : Scripted (Exchange.fine settings kind) (transactionCalls context kind group) made true)
    (rest : Follows settings context kind length pairs more whole) :
    Follows settings context kind length (group ++ pairs) (made ++ more) whole := by
  obtain ⟨groups, grouped, further⟩ := rest
  refine ⟨_, .full all grouped, ?_⟩
  rw [List.flatMap_cons]
  exact said.append further

theorem crudPass_follows (poised : desk.Poised settings shape space start steps steps) {left : Nat}
    (some : 0 < left) :
    Yields stage.Heard anyhow (crudPass stage settings context left) desk
      fun made outcome _ => Follows settings context .crud 1
        (Walk.beside shape settings.valueSize space start steps left) made outcome.isOk := by
  induction left generalizing desk steps with
  | zero => exact absurd some (Nat.lt_irrefl 0)
  | succ left ih =>
      have first := @exists_grouped shape settings.valueSize space start steps 1 (left + 1)
        Nat.one_pos some
      rw [Nat.min_eq_right some] at first
      unfold crudPass crudStep
      simp only [bind_assoc, pure_bind]
      apply (nextPair_poised poised).bindFrom
      · rintro made cause after ⟨_, impossible, _⟩
        cases impossible
      rintro made a middle ⟨rfl, same, moved⟩
      cases same
      apply (nextSecond_poised moved).bindFrom
      · rintro made cause after ⟨_, impossible, _⟩
        cases impossible
      rintro made b after ⟨rfl, same, moved⟩
      cases same
      apply Yields.reads
      have performs : Performs stage anyhow (Exchange.fine settings .crud)
          (transactionCalls context .crud
            (Walk.beside shape settings.valueSize space start steps 1))
          (crudTransaction stage settings context
            (shape.pairAt (shape.spot space start steps) settings.valueSize 0)
            (shape.pairAt (shape.spot (space + 1) start steps) settings.valueSize 0))
          fun _ _ => True := by
        refine transaction_performs rfl ?_ fun _ _ _ _ => id
        rw [Walk.beside, Walk.beside, List.flatMap_singleton]
        exact (quadruple_performs (.inl rfl) _ _).weaken fun _ _ _ => trivial
      apply tried_poised moved performs
      · intro made cause after scripted
        exact .first scripted first
      · intro made value after scripted _ further
        cases left with
        | zero =>
            apply Yields.pure
            rw [List.append_nil]
            exact .last (beside_ne_nil Nat.one_pos) (by rw [Walk.length_beside]) scripted
        | succ left =>
            apply (ih further left.succ_pos).mono
            intro more outcome after rest
            have all : Walk.beside shape settings.valueSize space start steps (left + 1 + 1) = _ :=
              congrArg _ (Nat.add_comm (left + 1) 1)
            rw [all, Walk.beside_add]
            exact (Follows.step (Walk.length_beside 1) scripted rest :)

/-- A transaction of a batch makes a quadruple of each of its pairs. -/
theorem batch_performs {left : Nat} (some : 0 < left) (firsts seconds : List Pair) :
    Performs stage anyhow (Exchange.fine settings .batch)
      (transactionCalls context .batch ((firsts.zip seconds).take left))
      (batchTransaction stage settings context left firsts seconds)
      fun _ result => result.2 = ((firsts.zip seconds).take left).length := by
  have small {pair : Pair} (among : pair ∈ firsts ++ seconds) :
      pair.volume ≤ ((firsts ++ seconds).map Pair.volume).sum :=
    List.le_sum_of_mem (List.mem_map_of_mem among)
  exact (batchTransaction_performs some
    (fun pair member => small (List.mem_append_left seconds member))
    (fun pair member => small (List.mem_append_right firsts member))).weaken fun _ _ holds => holds.2

theorem batchPass_follows (poised : desk.Poised settings shape space start steps steps)
    (positive : 0 < settings.batchLength) {left : Nat} (some : 0 < left) (room : Nat) :
    Yields stage.Heard anyhow (batchPass stage settings context left room) desk
      fun made outcome _ => Follows settings context .batch settings.batchLength
        (Walk.beside shape settings.valueSize space start steps left) made outcome.isOk := by
  induction room generalizing desk steps left with
  | zero => exact Yields.panics trivial
  | succ room ih =>
      have first := @exists_grouped shape settings.valueSize space start steps
        settings.batchLength left positive some
      unfold batchPass
      apply (nextBatch_poised poised).bindFrom
      · rintro made cause after ⟨_, impossible, _⟩
        cases impossible
      rintro made pools middle ⟨rfl, same, moved⟩
      cases same
      apply nominalBatchVolume_yields.bindFrom
      · rintro made cause after ⟨_, _, _, impossible, _⟩
        cases impossible
      rintro made nominal after ⟨rfl, rfl, _⟩
      apply Yields.reads
      have performs := @batch_performs W stage settings context left some
        (Walk.ahead shape settings.valueSize space start steps settings.batchLength)
        (Walk.ahead shape settings.valueSize (space + 1) start steps settings.batchLength)
      rw [Walk.zip_ahead, Walk.take_beside, Walk.length_beside] at performs
      apply tried_poised moved performs
      · intro made cause after scripted
        exact .first scripted first
      · rintro made ⟨volume, used⟩ after scripted same further
        obtain rfl : used = min left settings.batchLength := same
        dsimp only
        split
        · next all =>
          have enough : min left settings.batchLength = left := by omega
          rw [enough] at scripted
          apply Yields.pure
          rw [List.append_nil]
          exact .last (beside_ne_nil some) (by rw [Walk.length_beside]; omega) scripted
        · next more =>
          have full : min left settings.batchLength = settings.batchLength := by omega
          rw [full] at scripted more ⊢
          obtain ⟨rest, rfl⟩ := Nat.exists_eq_add_of_le (Nat.le_of_not_le more)
          rw [Nat.add_sub_cancel_left, Walk.beside_add]
          apply (ih further (by omega)).mono
          intro more outcome after rest
          exact (Follows.step (Walk.length_beside _) scripted rest :)

theorem runFrom_congr {σ α β : Type} {piece : Piece W σ α} {next other : α → Piece W σ β} {state : σ}
    {world : W} (same : ∀ value after left, runFrom piece state world = ((.ok value, after), left) →
      runFrom (next value) after left = runFrom (other value) after left) :
    runFrom (piece >>= next) state world = runFrom (piece >>= other) state world := by
  rw [runFrom_bind, runFrom_bind]
  rcases ended : runFrom piece state world with ⟨⟨stop | value, after⟩, left⟩
  · rfl
  · exact same value after left ended

/-- What is said of the outcome of a piece of work holds of the value that it returned. -/
theorem Yields.returned {σ α : Type} {faithful : (W → List Exchange) → Prop}
    {excused : List Exchange → Panic → Prop} {piece : Piece W σ α} {state : σ} {holds : α → Prop}
    (yields : Yields faithful excused piece state fun _ outcome _ =>
      ∀ value, outcome = .ok value → holds value)
    {value : α} {after : σ} {world left : W}
    (runs : runFrom piece state world = ((.ok value, after), left)) : holds value := by
  obtain ⟨made, _, meets⟩ := yields world
  rw [runs] at meets
  exact meets.2 value rfl

theorem nextBatch_full : Yields stage.Heard anyhow (nextBatch settings) desk
    fun _ outcome _ => ∀ pools, outcome = .ok pools →
      pools.1.length = settings.batchLength ∧ pools.2.length = settings.batchLength := by
  unfold nextBatch
  apply Yields.reads
  rcases desk.worker.second with _ | second
  · exact Yields.fails nofun
  · dsimp only
    rcases first : Keys.Pool.new desk.worker.walk settings.batchLength with cause | ⟨firsts, walk⟩
    · exact Yields.panics trivial
    · rcases later : Keys.Pool.new second settings.batchLength with cause | ⟨seconds, beyond⟩
      · exact Yields.panics trivial
      · refine Yields.bind (Yields.set (Yields.pure ?_))
        intro pools same
        cases same
        exact ⟨length_pool first, length_pool later⟩

/-- A batch makes as many quadruples as it has room for, if it makes them all. -/
theorem batchTransaction_made {left : Nat} (some : 0 < left) {firsts seconds : List Pair}
    (full : firsts.length = settings.batchLength) (fullToo : seconds.length = settings.batchLength) :
    Yields stage.Heard anyhow
      (attempt (batchTransaction stage settings context left firsts seconds)) desk
      fun _ outcome _ => ∀ tried, outcome = .ok tried → ∀ result, tried = .ok result →
        result.2 = min left settings.batchLength := by
  apply Yields.attempt
  apply (batch_performs some firsts seconds desk).mono
  rintro made outcome after ⟨_, _, counts⟩ tried same result value
  cases same
  rw [counts result value, List.length_take, List.length_zip, full, fullToo, Nat.min_self]

/-- A pass of batch ends by itself: with room for all of its batches, more room makes no
difference. -/
theorem batchPass_room (positive : 0 < settings.batchLength) {left : Nat} (some : 0 < left)
    {room more : Nat} (enough : batchesFor settings.batchLength left ≤ room)
    (enoughToo : batchesFor settings.batchLength left ≤ more) (world : W) :
    runFrom (batchPass stage settings context left room) desk world =
      runFrom (batchPass stage settings context left more) desk world := by
  induction room generalizing left more desk world with
  | zero =>
      rw [Scene.batchesFor_succ positive some] at enough
      omega
  | succ room ih =>
      have batches := Scene.batchesFor_succ positive some
      obtain ⟨more, rfl⟩ : ∃ less, more = less + 1 := ⟨more - 1, by omega⟩
      unfold batchPass
      apply runFrom_congr
      intro pools middle next filled
      obtain ⟨full, fullToo⟩ := (@nextBatch_full W stage settings desk).returned filled
      apply runFrom_congr
      intro nominal after next _
      apply runFrom_congr
      intro begun after next _
      apply runFrom_congr
      intro outcome tried next attempted
      apply runFrom_congr
      intro recorded after next _
      apply runFrom_congr
      intro result after next settled
      have made : result.2 = min left settings.batchLength := by
        have counts := (@batchTransaction_made W stage settings context _ left some pools.1 pools.2
          full fullToo).returned attempted
        cases outcome with
        | ok value =>
            cases settled
            exact counts result rfl
        | error cause => cases settled
      rw [← made] at batches
      dsimp only
      split
      · rfl
      · exact ih (by omega) (by omega) (by omega) _

theorem kindSteps_follows (poised : desk.Poised settings shape space start 0 0)
    (positive : 0 < settings.batchLength) {left : Nat} (some : 0 < left) :
    (Yields stage.Heard anyhow (kindSteps stage settings context .crud left) desk
      fun made outcome _ => Follows settings context .crud 1
        (Walk.beside shape settings.valueSize space start 0 left) made outcome.isOk) ∧
    Yields stage.Heard anyhow (kindSteps stage settings context .batch left) desk
      fun made outcome _ => Follows settings context .batch settings.batchLength
        (Walk.beside shape settings.valueSize space start 0 left) made outcome.isOk := by
  unfold kindSteps
  rw [if_neg (Nat.ne_of_gt some), if_neg (Nat.ne_of_gt some)]
  exact ⟨crudPass_follows poised some, batchPass_follows poised positive some wordLimit⟩

end Steps

/-- The passes of the worker are `share` operations from the start, in a space and in the one after
it. -/
structure Desk.Spans (settings : Settings) (shape : Shape) (space start share : Nat) (desk : Desk) :
    Prop where
  share : desk.worker.share = share
  first : desk.worker.walk.rewind desk.worker.start =
    .along shape settings.valueSize space start 0
  second : desk.worker.second.map (·.rewind desk.worker.start) =
    some (.along shape settings.valueSize (space + 1) start 0)

namespace Desk.Spans

variable {share : Nat}

theorem poised (spans : desk.Spans settings shape space start share) (kind : Kind) :
    (desk.started kind).Poised settings shape space start 0 0 :=
  ⟨spans.first, spans.second⟩

theorem paired (spans : desk.Spans settings shape space start share) : desk.Paired := by
  intro _
  rw [← Option.isSome_map (f := (·.rewind desk.worker.start)), spans.second]
  rfl

theorem pairSize (spans : desk.Spans settings shape space start share) (sound : shape.Sound) :
    (desk.reckoning settings).pairSize = shape.keySize + settings.valueSize := by
  obtain ⟨walk, paired, rewound⟩ := Option.map_eq_some_iff.mp spans.second
  have first : desk.worker.walk.pairSize = shape.keyLength + settings.valueSize :=
    congrArg Walk.pairSize spans.first
  have second : walk.pairSize = shape.keyLength + settings.valueSize :=
    congrArg Walk.pairSize rewound
  unfold Desk.reckoning
  rw [paired, Option.map_some, Option.getD_some, first, second, Nat.max_self, sound.keyLength_eq]

end Desk.Spans

/-- A worker with a kind that needs a second space spans its slot. -/
theorem enlist_spans {number share : Nat} {kinds : KindSet} {shared after : Shared} {worker : Worker}
    (pairing : kinds.meets .pairing = true)
    (enlisted : Worker.enlist settings shape number kinds space start share shared =
      .ok (worker, after)) : (⟨after, worker⟩ : Desk).Spans settings shape space start share := by
  have made {walk : Walk} {place : Nat}
      (begun : Walk.new shape place start settings.valueSize 0 = .ok walk) :
      walk = .along shape settings.valueSize place start 0 := by
    unfold Walk.new at begun
    split at begun
    · cases begun
    split at begun
    · cases begun
    split at begun
    · cases begun
    · exact (Except.ok.inj begun).symm
  unfold Worker.enlist at enlisted
  rw [pairing] at enlisted
  rcases idle : kinds.isEmpty with _ | _
  · rcases first : Walk.new shape space start settings.valueSize 0 with stop | walk
    · rw [idle, first] at enlisted
      cases enlisted
    · rcases second : Walk.new shape (space + 1) start settings.valueSize 0 with stop | other
      · rw [idle, first, second] at enlisted
        cases enlisted
      · rw [idle, first, second] at enlisted
        cases enlisted
        cases made first
        cases made second
        exact ⟨rfl, rfl, rfl⟩
  · rw [idle] at enlisted
    cases enlisted

/-- What a kind of quadruples says in a pass, by the steps that it is made of. -/
theorem runKind_follows {length : Nat} {pairs : List (Pair × Pair)}
    (steps : Yields stage.Heard anyhow
      (kindSteps stage settings context kind desk.worker.share) (desk.started kind)
      fun made outcome _ => Follows settings context kind length pairs made outcome.isOk) :
    Yields stage.Heard anyhow (runKind stage settings context kind) desk
      fun made outcome _ => Follows settings context kind length pairs made outcome.isOk := by
  unfold runKind
  apply Yields.bind
  apply Yields.modifies
  apply Yields.reads
  apply Yields.bind
  apply Yields.attempt
  apply steps.mono
  intro made outcome middle follows
  apply (withRecorder_aside _).bindFrom
  · rintro more cause after ⟨_, impossible, _⟩
    cases impossible
  · rintro more done after ⟨rfl, _, _⟩
    apply Yields.settle
    rw [List.append_nil, List.append_nil, List.nil_append]
    exact follows

end StoreBench.Run
