import StoreBench.Proofs.KindSets
import StoreBench.Proofs.Run.Desk

/-! What the steps of the kinds do.

Point kinds go through the stretch of the worker's first key space; `crud` and `batch` also store
the pairs of a second one and delete them again before the transaction ends.  A step finds every
key it asks for, and records one sample with its bytes.
-/

namespace StoreBench

/-- What a kind makes of the coordinates held, when it goes through a region. -/
def Kind.effect (kind : Kind) (region points : Set Nat) : Set Nat :=
  match kind with
  | .get => points
  | .iterate => points
  | .delete => points \ region
  | .set => points ∪ region
  | .batch => points ∪ region
  | .crud => points ∪ region

namespace Kind

variable {region points : Set Nat} {shape : Keys.Shape} {space start length : Nat}

theorem effect_empty (kind : Kind) : kind.effect ∅ points = points := by
  cases kind <;> simp [effect]

theorem effect_stretch_succ (kind : Kind) :
    kind.effect {shape.spot space start length}
        (kind.effect (shape.stretch space start length) points) =
      kind.effect (shape.stretch space start (length + 1)) points := by
  rw [Keys.Shape.stretch_succ]
  cases kind with
  | get => rfl
  | iterate => rfl
  | delete => simp only [effect, Set.sdiff_sdiff, Set.union_singleton]
  | set => simp only [effect, Set.union_singleton, Set.union_insert]
  | batch => simp only [effect, Set.union_singleton, Set.union_insert]
  | crud => simp only [effect, Set.union_singleton, Set.union_insert]

end Kind

end StoreBench

namespace StoreBench.Run

open StoreBench.Engine (Answers Call answers_begin answers_delete answers_done answers_get
  answers_iterate answers_set)
open StoreBench.Keys (Pool Shape Walk)
open StoreBench.Latency (Recorder)

variable {W : Type}

namespace Scene

variable {scene : Scene W} {slot : Slot} {others : List Recorder} {kind : Option Kind}
  {points : Set Nat} {made later : Nat} {rest : Kind → Nat} {begun : Option Nat}
  {fail : Stop → Desk → W → Prop}

/-- The coordinate that a walk comes to. -/
abbrev spot (scene : Scene W) (slot : Slot) (steps : Nat) : Nat :=
  scene.shape.spot slot.space slot.start steps

/-- The same in the second space. -/
abbrev spare (scene : Scene W) (slot : Slot) (steps : Nat) : Nat :=
  scene.shape.spot (slot.space + 1) slot.start steps

abbrev pairOf (scene : Scene W) (point : Nat) : Pair :=
  scene.shape.pairAt point scene.settings.valueSize 0

/-- The pair that a point kind passes to the engine. -/
def offered (scene : Scene W) (chosen : Kind) (point : Nat) : Pair :=
  if chosen = .set then scene.pairOf point else ⟨(scene.shape.keyAt point).1, []⟩

theorem takesPair (chosen : Kind) :
    Ensures fail (scene.At slot others kind ⟨points, made, later, rest, begun⟩)
      (nextPair (chosen != .set) : Work (StateM W) Pair)
      fun pair desk world => pair = scene.offered chosen (scene.spot slot made) ∧
        scene.At slot others kind ⟨points, made + 1, later, rest, begun⟩ desk world := by
  intro desk world at_
  have walk : desk.worker.walk = _ := at_.walk
  by_cases whole : chosen = .set
  · have ran : runFrom (nextPair (chosen != .set) : Work (StateM W) Pair) desk world =
        ((.ok desk.worker.walk.next.1,
          { desk with worker := { desk.worker with walk := desk.worker.walk.next.2 } }),
          world) := by
      rw [whole]
      rfl
    rw [ran, walk, Walk.next_along]
    exact ⟨by rw [offered, if_pos whole], { at_ with walk := rfl }⟩
  · have ran : runFrom (nextPair (chosen != .set) : Work (StateM W) Pair) desk world =
        ((.ok desk.worker.walk.nextKey.1,
          { desk with worker := { desk.worker with walk := desk.worker.walk.nextKey.2 } }),
            world) := by
      rw [bne_iff_ne.mpr whole]
      rfl
    rw [ran, walk, Walk.nextKey_along]
    exact ⟨by rw [offered, if_neg whole], { at_ with walk := rfl }⟩

theorem takesSecond (pairing : scene.settings.selected.meets .pairing = true) (chosen : Kind) :
    Ensures fail (scene.At slot others kind ⟨points, made, later, rest, begun⟩)
      (nextSecond chosen : Work (StateM W) Pair)
      fun pair desk world => pair = scene.pairOf (scene.spare slot later) ∧
        scene.At slot others kind ⟨points, made, later + 1, rest, begun⟩ desk world := by
  intro desk world at_
  have ran {walk : Walk} (second : desk.worker.second = some walk) :
      runFrom (nextSecond chosen : Work (StateM W) Pair) desk world =
        ((.ok walk.next.1,
          { desk with worker := { desk.worker with second := some walk.next.2 } }), world) := by
    obtain ⟨shared, ⟨number, kinds, start, share, first, other, recorder⟩⟩ := desk
    cases second
    rfl
  rw [ran (at_.second.trans (if_pos pairing)), Walk.next_along]
  exact ⟨rfl, { at_ with second := by rw [if_pos pairing] }⟩

theorem point_answers {chosen : Kind} (isPoint : chosen ∈ [Kind.set, .get, .delete]) (context : Nat)
    {point : Nat} (small : point < scene.shape.period * scene.shape.spaces)
    (found : chosen ≠ .set → point ∈ points) :
    ∃ got, Answers scene.shape scene.settings.valueSize points
        (.next context chosen (scene.offered chosen point)) (· = .ok got)
        (chosen.effect {point} points) ∧
      (if chosen = .delete then (scene.offered chosen point).key.length else got.volume) =
        scene.settings.bytes chosen := by
  have volume : (scene.pairOf point).volume =
      scene.settings.keySize + scene.settings.valueSize := by
    rw [← scene.keySize]
    exact Shape.volume_pairAt scene.sound ..
  rcases List.mem_cons.mp isPoint with rfl | isPoint
  · rw [Kind.effect, Set.union_singleton]
    exact ⟨_, answers_set scene.sound context small, volume⟩
  · rcases List.mem_cons.mp isPoint with rfl | isPoint
    · exact ⟨_, answers_get context (found (by decide)) rfl, volume⟩
    · obtain rfl := List.mem_singleton.mp isPoint
      refine ⟨_, answers_delete scene.sound context small (found (by decide)) rfl, ?_⟩
      rw [if_pos rfl, Settings.bytes, ← scene.keySize]
      exact Shape.length_keyAt scene.sound point

theorem pointStep_goes {chosen : Kind} (isPoint : chosen ∈ [Kind.set, .get, .delete])
    (selected : scene.settings.selected.contains chosen = true) (context : Nat) {left : Nat}
    (inside : slot.space < scene.shape.spaces)
    (found : chosen ≠ .set → scene.spot slot made ∈ points) :
    scene.Goes
      (scene.At slot others (some chosen)
        ⟨points, made, later, rest + Pi.single chosen (left + 1), none⟩)
      (pointStep scene.host.stage scene.settings context chosen)
      fun _ => scene.At slot others (some chosen)
        ⟨chosen.effect {scene.spot slot made} points, made + 1, later,
          rest + Pi.single chosen left, none⟩ := by
  obtain ⟨got, answers, charged⟩ :=
    scene.point_answers isPoint context (scene.sound.spot_lt inside) found
  unfold pointStep
  refine Ensures.bindTo (takesPair chosen) ?_
  refine Ensures.bind begins fun start => ?_
  refine Ensures.bindTo (asks_ok (answers_begin context chosen)) ?_
  refine Ensures.bindTo (asks_ok answers) ?_
  refine Ensures.bindTo (Ensures.pure fun _ _ at_ => ⟨rfl, at_⟩) ?_
  refine Ensures.bindTo (asks_ok (answers_done context chosen)) ?_
  exact Ensures.bind (records selected charged) fun _ => Ensures.pure fun _ _ at_ => at_

theorem pointPass_goes {chosen : Kind} (isPoint : chosen ∈ [Kind.set, .get, .delete])
    (selected : scene.settings.selected.contains chosen = true) (context : Nat)
    (inside : slot.space < scene.shape.spaces) {total : Nat}
    (found : chosen ≠ .set → ∀ steps < total, scene.spot slot steps ∈ points)
    (around : chosen = .delete → total ≤ scene.shape.period) {left : Nat}
    (whole : made + left = total) :
    scene.Goes
      (scene.At slot others (some chosen)
        ⟨chosen.effect (scene.shape.stretch slot.space slot.start made) points, made, later,
          rest + Pi.single chosen left, none⟩)
      (pointPass scene.host.stage scene.settings context chosen left)
      fun _ => scene.At slot others (some chosen)
        ⟨chosen.effect (scene.shape.stretch slot.space slot.start total) points, total, later,
          rest, none⟩ := by
  induction left generalizing made with
  | zero =>
      obtain rfl : made = total := whole
      rw [Pi.single_zero, add_zero]
      exact Ensures.pure fun _ _ at_ => at_
  | succ left ih =>
      have held : chosen ≠ .set → scene.spot slot made ∈
          chosen.effect (scene.shape.stretch slot.space slot.start made) points := by
        intro stored
        have member := found stored made (by omega)
        rcases List.mem_cons.mp isPoint with rfl | isPoint
        · exact absurd rfl stored
        · rcases List.mem_cons.mp isPoint with rfl | isPoint
          · exact member
          · obtain rfl := List.mem_singleton.mp isPoint
            have period := around rfl
            exact ⟨member, Shape.spot_notMem (by omega)⟩
      unfold pointPass
      refine Ensures.bind (pointStep_goes isPoint selected context inside held) fun _ => ?_
      rw [Kind.effect_stretch_succ]
      exact ih (by omega)

theorem quadruple_goes (context : Nat) {first second start : Nat}
    (small : first < scene.shape.period * scene.shape.spaces)
    (smallToo : second < scene.shape.period * scene.shape.spaces) (different : second ≠ first)
    (free : second ∉ points) :
    Ensures fail (scene.At slot others kind ⟨points, made, later, rest, some start⟩)
      (quadruple scene.host.stage scene.settings context (scene.pairOf first)
        (scene.pairOf second))
      fun volume desk world =>
        volume = 3 * (scene.settings.keySize + scene.settings.valueSize) +
            scene.settings.keySize ∧
          scene.At slot others kind
            ⟨points ∪ {first}, made, later, rest, some start⟩ desk world := by
  have left : insert first (insert second points) \ {second} = points ∪ {first} := by
    rw [Set.union_singleton]
    ext point
    by_cases same : point = second
    · subst same
      simp [different, free]
    · simp [same]
  have volume (point : Nat) : (scene.pairOf point).volume =
      scene.settings.keySize + scene.settings.valueSize := by
    rw [← scene.keySize]
    exact Shape.volume_pairAt scene.sound ..
  have length : (scene.pairOf second).key.length = scene.settings.keySize := by
    rw [← scene.keySize]
    exact Shape.length_keyAt scene.sound second
  unfold quadruple
  refine Ensures.bindTo (demands (answers_set scene.sound context smallToo)) ?_
  refine Ensures.bindTo (demands (answers_set scene.sound context small)) ?_
  refine Ensures.bindTo (asks_ok (answers_delete scene.sound context smallToo
    (Set.mem_insert_of_mem _ (Set.mem_insert second points)) rfl)) ?_
  refine Ensures.bindTo (asks_ok (answers_get context
    ⟨Set.mem_insert first _, different.symm⟩ rfl)) ?_
  refine Ensures.pure fun desk world at_ => ⟨?_, left ▸ at_⟩
  rw [volume, volume, length]
  omega

theorem crudTransaction_goes (context : Nat) {first second start : Nat}
    (small : first < scene.shape.period * scene.shape.spaces)
    (smallToo : second < scene.shape.period * scene.shape.spaces) (different : second ≠ first)
    (free : second ∉ points) :
    Ensures fail (scene.At slot others kind ⟨points, made, later, rest, some start⟩)
      (crudTransaction scene.host.stage scene.settings context (scene.pairOf first)
        (scene.pairOf second))
      fun volume desk world =>
        volume = scene.settings.bytes .crud ∧
          scene.At slot others kind
            ⟨points ∪ {first}, made, later, rest, some start⟩ desk world := by
  unfold crudTransaction
  refine Ensures.bindTo (demands (answers_begin context .crud)) ?_
  refine Ensures.bindTo (quadruple_goes context small smallToo different free) ?_
  refine Ensures.bindTo (demands (answers_done context .crud)) ?_
  exact Ensures.pure fun _ _ at_ => ⟨rfl, at_⟩

theorem spare_ne (scene : Scene W) (slot : Slot) (steps more : Nat) :
    scene.spare slot steps ≠ scene.spot slot more := by
  intro same
  have spaces := congrArg (· / scene.shape.period) same
  simp only [scene.sound.spot_div] at spaces
  omega

theorem spare_notMem_effect {chosen : Kind} {steps length : Nat}
    (free : scene.spare slot steps ∉ points) :
    scene.spare slot steps ∉
      chosen.effect (scene.shape.stretch slot.space slot.start length) points := by
  have apart : scene.spare slot steps ∉ scene.shape.stretch slot.space slot.start length := by
    intro given
    obtain ⟨more, _, same⟩ := given
    exact scene.spare_ne slot steps more same
  cases chosen with
  | get => exact free
  | iterate => exact free
  | delete => exact fun member => free member.1
  | set => exact fun member => member.elim free apart
  | batch => exact fun member => member.elim free apart
  | crud => exact fun member => member.elim free apart

theorem crudStep_goes (pairing : scene.settings.selected.meets .pairing = true)
    (selected : scene.settings.selected.contains .crud = true) (context : Nat) {left : Nat}
    (inside : slot.space + 1 < scene.shape.spaces) (free : scene.spare slot later ∉ points) :
    scene.Goes
      (scene.At slot others (some .crud)
        ⟨points, made, later, rest + Pi.single .crud (left + 1), none⟩)
      (crudStep scene.host.stage scene.settings context)
      fun _ => scene.At slot others (some .crud)
        ⟨Kind.crud.effect {scene.spot slot made} points, made + 1, later + 1,
          rest + Pi.single .crud left, none⟩ := by
  unfold crudStep
  refine Ensures.bindTo (takesPair .set) ?_
  refine Ensures.bindTo (takesSecond pairing .crud) ?_
  refine Ensures.bind begins fun start => ?_
  refine Ensures.bindTo (attempt_to (crudTransaction_goes context
    (scene.sound.spot_lt (by omega)) (scene.sound.spot_lt inside)
    (scene.spare_ne slot later made) free)) ?_
  refine Ensures.bind (records selected rfl) fun _ => ?_
  exact Ensures.bindTo (Ensures.pure fun _ _ at_ => ⟨rfl, at_⟩)
    (Ensures.pure fun _ _ at_ => at_)

theorem crudPass_goes (pairing : scene.settings.selected.meets .pairing = true)
    (selected : scene.settings.selected.contains .crud = true) (context : Nat)
    (inside : slot.space + 1 < scene.shape.spaces)
    (free : ∀ steps, scene.spare slot steps ∉ points) {total left : Nat}
    (whole : made + left = total) :
    scene.Goes
      (scene.At slot others (some .crud)
        ⟨Kind.crud.effect (scene.shape.stretch slot.space slot.start made) points, made, later,
          rest + Pi.single .crud left, none⟩)
      (crudPass scene.host.stage scene.settings context left)
      fun _ => scene.At slot others (some .crud)
        ⟨Kind.crud.effect (scene.shape.stretch slot.space slot.start total) points, total,
          later + left, rest, none⟩ := by
  induction left generalizing made later with
  | zero =>
      obtain rfl : made = total := whole
      rw [Pi.single_zero, add_zero]
      exact Ensures.pure fun _ _ at_ => at_
  | succ left ih =>
      unfold crudPass
      refine Ensures.bind (crudStep_goes pairing selected context inside
        (spare_notMem_effect (free later))) fun _ => ?_
      rw [Kind.effect_stretch_succ, Nat.add_comm left 1, ← Nat.add_assoc]
      exact ih (by omega)

abbrev pool (scene : Scene W) (slot : Slot) (steps count : Nat) : List Pair :=
  Walk.ahead scene.shape scene.settings.valueSize slot.space slot.start steps count

abbrev sparePool (scene : Scene W) (slot : Slot) (steps count : Nat) : List Pair :=
  Walk.ahead scene.shape scene.settings.valueSize (slot.space + 1) slot.start steps count

/-- A pool can be addressed if the bytes of a batch can be counted. -/
theorem pool_addressable (sure : scene.sure) (wanted : 0 < scene.quota .batch) :
    scene.settings.batchLength * (scene.shape.keySize + scene.settings.valueSize) <
      wordLimit / 2 := by
  have fits := (scene.fits sure .batch).2
  have once := Nat.mul_le_mul_right (scene.settings.bytes .batch) wanted
  have bytes : scene.settings.bytes .batch =
      3 * (scene.settings.batchLength * (scene.settings.keySize + scene.settings.valueSize)) +
        scene.settings.keySize * scene.settings.batchLength := by
    rw [Settings.bytes, Nat.add_mul, Nat.mul_assoc, Nat.mul_comm _ scene.settings.batchLength]
  rw [scene.keySize]
  unfold wordLimit at *
  omega

theorem nextBatch_goes (pairing : scene.settings.selected.meets .pairing = true)
    (wanted : scene.sure → 0 < scene.quota .batch) :
    scene.Goes (scene.At slot others kind ⟨points, made, later, rest, begun⟩)
      (nextBatch scene.settings)
      fun pools desk world =>
        pools = (scene.pool slot made scene.settings.batchLength,
          scene.sparePool slot later scene.settings.batchLength) ∧
        scene.At slot others kind ⟨points, made + scene.settings.batchLength,
          later + scene.settings.batchLength, rest, begun⟩ desk world := by
  unfold nextBatch
  refine Ensures.bind (m := fun found desk world => found = desk ∧
    scene.At slot others kind ⟨points, made, later, rest, begun⟩ desk world)
    (Ensures.get fun _ _ at_ => ⟨rfl, at_⟩) fun found => ?_
  refine Ensures.assume (p := found.worker.walk =
        .along scene.shape scene.settings.valueSize slot.space slot.start made ∧
      found.worker.second = some
        (.along scene.shape scene.settings.valueSize (slot.space + 1) slot.start later)) ?_ ?_
  · intro desk world given
    obtain ⟨rfl, at_⟩ := given
    exact ⟨at_.walk, at_.second.trans (if_pos pairing)⟩
  · intro given
    obtain ⟨first, second⟩ := given
    rw [first, second]
    dsimp only
    by_cases small : scene.settings.batchLength *
        (scene.shape.keySize + scene.settings.valueSize) < wordLimit / 2
    · rw [Walk.pool_along small, Walk.pool_along small]
      refine Ensures.bind (m := fun _ => scene.At slot others kind ⟨points,
        made + scene.settings.batchLength, later + scene.settings.batchLength, rest, begun⟩)
        (Ensures.set ?_) (fun _ => Ensures.pure fun _ _ at_ => ⟨rfl, at_⟩)
      intro desk world given
      obtain ⟨rfl, at_⟩ := given
      exact { at_ with walk := rfl, second := by rw [if_pos pairing] }
    · obtain ⟨cause, failed⟩ := @Walk.pool_along_error scene.shape scene.settings.valueSize
        slot.space slot.start made scene.settings.batchLength small
      rw [failed]
      exact Ensures.throw fun desk world given => given.2.holds.spoil fun fine =>
        small (pool_addressable fine.sure (wanted fine.sure))

/-- The body of a batch takes pair after pair from both pools, until it has made enough or the
pools are drained. -/
theorem batchBody_goes (context : Nat) (inside : slot.space + 1 < scene.shape.spaces)
    (free : ∀ steps, scene.spare slot steps ∉ points) {left run count done steps more last : Nat}
    (runs : run = min (left - done) count) (unfinished : done < left)
    (known : 0 < count ∨ last = 3 * (scene.settings.keySize + scene.settings.valueSize) +
      scene.settings.keySize) {start : Nat} :
    Ensures fail
      (scene.At slot others kind
        ⟨Kind.batch.effect (scene.shape.stretch slot.space slot.start steps) points, made, later,
          rest, some start⟩)
      (batchBody scene.host.stage scene.settings context left (scene.pool slot steps count)
        (scene.sparePool slot more count) last done)
      fun result desk world =>
        result = (3 * (scene.settings.keySize + scene.settings.valueSize) +
            scene.settings.keySize, done + run) ∧
        scene.At slot others kind
          ⟨Kind.batch.effect (scene.shape.stretch slot.space slot.start (steps + run)) points,
            made, later, rest, some start⟩ desk world := by
  induction count generalizing run done steps more last with
  | zero =>
      obtain rfl : run = 0 := by omega
      obtain rfl := known.resolve_left (by omega)
      exact Ensures.pure fun _ _ at_ => ⟨rfl, at_⟩
  | succ count ih =>
      unfold pool sparePool Walk.ahead batchBody
      refine Ensures.bindTo (quadruple_goes context (scene.sound.spot_lt (by omega))
        (scene.sound.spot_lt inside) (scene.spare_ne slot more steps)
        (spare_notMem_effect (free more))) ?_
      have grown : Kind.batch.effect (scene.shape.stretch slot.space slot.start steps) points ∪
          {scene.spot slot steps} = _ := Kind.effect_stretch_succ .batch
      rw [grown]
      split
      · next finished =>
        obtain rfl : run = 1 := by omega
        exact Ensures.pure fun _ _ at_ => ⟨rfl, at_⟩
      · next unfinished =>
        obtain ⟨run, rfl⟩ : ∃ later, run = later + 1 := ⟨run - 1, by omega⟩
        have rest := @ih run (done + 1) (steps + 1) (more + 1)
          (3 * (scene.settings.keySize + scene.settings.valueSize) + scene.settings.keySize)
          (by omega) (by omega) (.inr rfl)
        rw [Nat.add_comm run 1, ← Nat.add_assoc, ← Nat.add_assoc]
        exact rest

theorem batchTransaction_goes (context : Nat) (inside : slot.space + 1 < scene.shape.spaces)
    (free : ∀ steps, scene.spare slot steps ∉ points) {left run count steps more : Nat}
    (runs : run = min left count) (unfinished : 0 < left) (filled : 0 < count) {start : Nat} :
    Ensures fail
      (scene.At slot others kind
        ⟨Kind.batch.effect (scene.shape.stretch slot.space slot.start steps) points, made, later,
          rest, some start⟩)
      (batchTransaction scene.host.stage scene.settings context left (scene.pool slot steps count)
        (scene.sparePool slot more count))
      fun result desk world =>
        result = (3 * (scene.settings.keySize + scene.settings.valueSize) +
            scene.settings.keySize, run) ∧
        scene.At slot others kind
          ⟨Kind.batch.effect (scene.shape.stretch slot.space slot.start (steps + run)) points,
            made, later, rest, some start⟩ desk world := by
  unfold batchTransaction
  refine Ensures.bindTo (demands (answers_begin context .batch)) ?_
  refine Ensures.bindTo (batchBody_goes context inside free runs unfinished (.inl filled)) ?_
  refine Ensures.bindTo (demands (answers_done context .batch)) ?_
  exact Ensures.pure fun _ _ at_ => ⟨by rw [Nat.zero_add], at_⟩

theorem batchesFor_succ {length left : Nat} (positive : 0 < length) (unfinished : 0 < left) :
    batchesFor length left = batchesFor length (left - min left length) + 1 := by
  unfold batchesFor
  rcases Nat.le_total left length with small | large
  · have sum : left + (length - 1) = length + (left - 1) := by omega
    rw [Nat.min_eq_left small, Nat.sub_self, Nat.zero_add, sum, Nat.add_div_left _ positive,
      Nat.div_eq_of_lt (by omega), Nat.div_eq_of_lt (by omega)]
  · have sum : left + (length - 1) = length + (left - length + (length - 1)) := by omega
    rw [Nat.min_eq_right large, sum, Nat.add_div_left _ positive]

theorem nominalBatchVolume_goes {mark : Mark} :
    Ensures fail (scene.At slot others kind mark) (nominalBatchVolume : Work (StateM W) Nat)
      fun _ => scene.At slot others kind mark :=
  fun _ _ at_ => at_

theorem batchPass_goes (pairing : scene.settings.selected.meets .pairing = true)
    (selected : scene.settings.selected.contains .batch = true) (context : Nat)
    (inside : slot.space + 1 < scene.shape.spaces)
    (free : ∀ steps, scene.spare slot steps ∉ points) {total left room : Nat}
    (whole : made + left = total) (unfinished : 0 < left)
    (wanted : scene.sure → 0 < scene.quota .batch)
    (roomy : scene.sure → batchesFor scene.settings.batchLength left ≤ room) :
    scene.Goes
      (scene.At slot others (some .batch)
        ⟨Kind.batch.effect (scene.shape.stretch slot.space slot.start made) points, made, later,
          rest + Pi.single .batch (batchesFor scene.settings.batchLength left), none⟩)
      (batchPass scene.host.stage scene.settings context left room)
      fun _ desk world => ∃ made later, scene.At slot others (some .batch)
        ⟨Kind.batch.effect (scene.shape.stretch slot.space slot.start total) points, made,
          later, rest, none⟩ desk world := by
  have positive := scene.batches selected
  induction room generalizing made later left with
  | zero =>
      refine Ensures.throw fun desk world at_ => at_.holds.spoil fun fine => ?_
      have few := roomy fine.sure
      rw [batchesFor_succ positive unfinished] at few
      omega
  | succ room ih =>
      have batches := batchesFor_succ positive unfinished
      unfold batchPass
      refine Ensures.bindTo (nextBatch_goes pairing wanted) ?_
      refine Ensures.bind nominalBatchVolume_goes fun _ => ?_
      refine Ensures.bind begins fun start => ?_
      refine Ensures.bindTo (attempt_to (batchTransaction_goes context inside free rfl unfinished
        positive)) ?_
      rw [batches]
      refine Ensures.bind (records selected rfl) fun _ => ?_
      refine Ensures.bindTo (Ensures.pure fun _ _ at_ => ⟨rfl, at_⟩) ?_
      dsimp only
      split
      · next last =>
        have all : min left scene.settings.batchLength = left := by omega
        rw [all, whole, Nat.sub_self]
        have none : batchesFor scene.settings.batchLength 0 = 0 := by
          unfold batchesFor
          rw [Nat.zero_add]
          exact Nat.div_eq_of_lt (by omega)
        rw [none, Pi.single_zero, add_zero]
        exact Ensures.pure fun _ _ at_ => ⟨_, _, at_⟩
      · next further =>
        have full : min left scene.settings.batchLength = scene.settings.batchLength := by omega
        rw [full] at further batches ⊢
        refine ih (by omega) (by omega) fun sure => ?_
        have few := roomy sure
        omega

/-- The first record of a cursor is timed from before its transaction, the others from the one
before. -/
theorem cursorSteps_goes (selected : scene.settings.selected.contains .iterate = true)
    (context : Nat) {start left : Nat} :
    scene.Goes
      (scene.At slot others (some .iterate)
        ⟨points, made, later, rest + Pi.single .iterate left, some start⟩)
      (cursorSteps scene.host.stage context start left)
      fun _ => scene.At slot others (some .iterate) ⟨points, made, later, rest, none⟩ := by
  have fewer : rest ≤ rest + Pi.single .iterate left := fun _ => Nat.le_add_right _ _
  induction left generalizing start with
  | zero => exact Ensures.pure fun _ _ at_ => at_.relax fewer
  | succ left ih =>
      unfold cursorSteps
      refine Ensures.bind (asks (answers_iterate scene.sound context .empty) ?_) fun result => ?_
      · intro result given
        rcases given with ⟨found, rfl, _⟩ | rfl
        · rfl
        · rfl
      refine Ensures.learn fun known => ?_
      rcases known with ⟨found, rfl, volume⟩ | rfl
      · rw [scene.keySize] at volume
        refine Ensures.bind (records selected volume) fun _ => ?_
        refine Ensures.bind begins fun start => ?_
        exact ih fun _ => Nat.le_add_right _ _
      · exact Ensures.pure fun _ _ at_ => at_.relax fewer

theorem iteratePass_goes (selected : scene.settings.selected.contains .iterate = true)
    (context : Nat) {share : Nat} :
    scene.Goes
      (scene.At slot others (some .iterate)
        ⟨points, made, later, rest + Pi.single .iterate share, none⟩)
      (iteratePass scene.host.stage context share)
      fun _ => scene.At slot others (some .iterate) ⟨points, made, later, rest, none⟩ := by
  unfold iteratePass
  refine Ensures.bind begins fun start => ?_
  refine Ensures.bindTo (demands (answers_begin context .iterate)) ?_
  refine Ensures.bind (cursorSteps_goes selected context) fun _ => ?_
  refine Ensures.bindTo (demands (answers_done context .iterate)) ?_
  exact Ensures.pure fun _ _ at_ => at_

/-- What a kind needs to find every key, and not to meet itself. -/
structure Able (scene : Scene W) (slot : Slot) (points : Set Nat) (chosen : Kind) : Prop where
  selected : scene.settings.selected.contains chosen = true
  found : chosen = .get ∨ chosen = .delete →
    scene.shape.stretch slot.space slot.start slot.share ⊆ points
  around : chosen = .delete → slot.share ≤ scene.shape.period

/-- The slot lies within the key spaces, and the spare space is free. -/
structure Placed (scene : Scene W) (slot : Slot) (points : Set Nat) : Prop where
  inside : slot.space < scene.shape.spaces
  spare : scene.settings.selected.meets .pairing = true → slot.space + 1 < scene.shape.spaces
  free : scene.settings.selected.meets .pairing = true →
    ∀ steps, scene.spare slot steps ∉ points

theorem At.room {chosen : Kind} {left : Nat} {desk : Desk} {world : W}
    (at_ : scene.At slot others kind
      ⟨points, made, later, rest + Pi.single chosen left, begun⟩ desk world)
    (sure : scene.sure) : left ≤ scene.quota chosen := by
  have within := at_.roomy sure chosen
  simp only [Pi.add_apply, Pi.single_eq_same] at within
  omega

theorem kindSteps_goes {chosen : Kind} (able : scene.Able slot points chosen)
    (placed : scene.Placed slot points) (context : Nat) :
    scene.Goes
      (scene.At slot others (some chosen)
        ⟨points, 0, 0, rest + Pi.single chosen (scene.settings.charge chosen slot.share), none⟩)
      (kindSteps scene.host.stage scene.settings context chosen slot.share)
      fun _ desk world => ∃ made later, scene.At slot others (some chosen)
        ⟨chosen.effect (scene.shape.stretch slot.space slot.start slot.share) points, made, later,
          rest, none⟩ desk world := by
  have idle : chosen.effect (scene.shape.stretch slot.space slot.start 0) points = points := by
    rw [Shape.stretch_zero, Kind.effect_empty]
  have whole := Nat.zero_add slot.share
  have found (isPoint : chosen = .get ∨ chosen = .delete) :
      ∀ steps < slot.share, scene.spot slot steps ∈ points :=
    fun steps early => able.found isPoint (Shape.spot_mem early)
  unfold kindSteps
  split
  · next none =>
    rw [none, idle]
    exact Ensures.pure fun _ _ at_ => ⟨0, 0, at_.relax fun _ => Nat.le_add_right _ _⟩
  · next busy =>
    have point (isPoint : chosen ∈ [Kind.set, .get, .delete])
        (asked : chosen ≠ .set → chosen = .get ∨ chosen = .delete) :=
      @pointPass_goes W scene slot others points 0 0 rest chosen isPoint able.selected context
        placed.inside slot.share (fun stored => found (asked stored)) able.around slot.share whole
    rw [idle] at point
    cases chosen with
    | set =>
        exact (point (by decide) (by decide)).after fun _ _ _ at_ => ⟨_, _, at_⟩
    | get =>
        exact (point (by decide) (by decide)).after fun _ _ _ at_ => ⟨_, _, at_⟩
    | delete =>
        exact (point (by decide) (by decide)).after fun _ _ _ at_ => ⟨_, _, at_⟩
    | iterate =>
        exact (iteratePass_goes able.selected context).after fun _ _ _ at_ => ⟨_, _, at_⟩
    | crud =>
        have pairing := @KindSet.meets_of_contains _ .pairing _ able.selected rfl
        have pass := @crudPass_goes W scene slot others points 0 0 rest pairing able.selected
          context (placed.spare pairing) (placed.free pairing) slot.share slot.share whole
        rw [idle] at pass
        exact pass.after fun _ _ _ at_ => ⟨_, _, at_⟩
    | batch =>
        have pairing := @KindSet.meets_of_contains _ .pairing _ able.selected rfl
        refine Ensures.assume (fun _ _ at_ => at_.room) fun room => ?_
        have positive := batchesFor_succ (scene.batches able.selected) (Nat.pos_of_ne_zero busy)
        have wanted (sure : scene.sure) : 0 < scene.quota .batch :=
          Nat.lt_of_lt_of_le (by rw [Settings.charge, if_pos rfl, positive]; omega) (room sure)
        have roomy (sure : scene.sure) :
            batchesFor scene.settings.batchLength slot.share ≤ wordLimit :=
          Nat.le_trans (room sure) (Nat.le_of_lt (scene.fits sure .batch).1)
        have pass := @batchPass_goes W scene slot others points 0 0 rest pairing able.selected
          context (placed.spare pairing) (placed.free pairing) slot.share slot.share wordLimit whole
          (Nat.pos_of_ne_zero busy) wanted roomy
        rw [idle] at pass
        exact pass

end Scene

end StoreBench.Run
