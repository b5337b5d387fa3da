import StoreBench.Proofs.Run.Steps

/-! What a worker says of one kind in a pass.

Points and quadruples are said one by one, batches as long as there are operations left, and the
records of a cursor up to its end.
-/

namespace StoreBench.Run

open StoreBench.Engine (Answer Call Exchange elapsed largest taken)

variable {W : Type} {stage : Stage (StateM W)} {settings : Settings} {r : Reckoning settings}
  {context : Nat} {kind : Kind} {desk : Desk} {said : List Exchange}

/-- A pass whose every step says one bracket for one operation. -/
theorem stepwise_yields {next : Nat → Work (StateM W) Unit} {step : Work (StateM W) Unit}
    (none : next 0 = pure ()) (further : ∀ left, next (left + 1) = step >>= fun _ => next left)
    (steps : ∀ desk said left, Ready r said kind desk →
      Yields stage.Heard (since (Strain r) said) step desk
        fun made outcome => Bracketed r context kind left 1 desk made outcome.isOk)
    (ready : Ready r said kind desk) (left : Nat) :
    Yields stage.Heard (since (Strain r) said) (next left) desk fun made outcome after =>
      ∃ brackets, Passed r context kind left desk made outcome after brackets := by
  induction left generalizing desk said with
  | zero =>
      rw [none]
      exact Yields.pure ⟨[], .complete r kind desk⟩
  | succ left ih =>
      rw [further]
      apply (steps desk said (left + 1) ready).bindSince
      · intro made cause after bracketed
        exact ⟨[made], .broken bracketed cause⟩
      · intro made done middle bracketed
        apply (ih (bracketed.gains.ready ready)).mono
        rintro more outcome after ⟨brackets, passed⟩
        exact ⟨made :: brackets, .step bracketed passed⟩

theorem pointPass_yields (ready : Ready r said kind desk) (point : kind.isPoint = true)
    (left : Nat) :
    Yields stage.Heard (since (Strain r) said) (pointPass stage settings context kind left) desk
      fun made outcome after =>
        ∃ brackets, Passed r context kind left desk made outcome after brackets :=
  stepwise_yields rfl (fun _ => rfl) (fun _ _ left ready => pointStep_yields ready point left)
    ready left

theorem crudPass_yields (ready : Ready r said .crud desk) (left : Nat) :
    Yields stage.Heard (since (Strain r) said) (crudPass stage settings context left) desk
      fun made outcome after =>
        ∃ brackets, Passed r context .crud left desk made outcome after brackets :=
  stepwise_yields rfl (fun _ => rfl) (fun _ _ left ready => crudStep_yields ready left) ready left

section Batches

variable {excused : List Exchange → Panic → Prop}

/-- The body of a batch makes quadruples until it has made enough or a pool is drained.  Its last
quadruple has no more bytes than four pairs as large as the largest. -/
theorem batchBody_performs {left made bytes seen : Nat} (unfinished : made < left) {last : Nat}
    (few : last ≤ 4 * max bytes seen) {firsts seconds : List Pair}
    (small : ∀ pair ∈ firsts, pair.volume ≤ bytes)
    (smallToo : ∀ pair ∈ seconds, pair.volume ≤ bytes) :
    Performs stage excused (Exchange.fine settings .batch)
      (((firsts.zip seconds).take (left - made)).flatMap (quadrupleCalls context))
      (batchBody stage settings context left firsts seconds last made)
      fun said result => result.1 ≤ 4 * max bytes (max seen (largest said)) ∧
        result.2 = made + ((firsts.zip seconds).take (left - made)).length := by
  have none (seen : Nat) : 4 * max bytes seen ≤ 4 * max bytes (max seen (largest [])) :=
    Nat.mul_le_mul_left 4 (max_le_max_left _ (Nat.le_max_left _ _))
  induction firsts generalizing seconds made last seen excused with
  | nil =>
      rw [List.zip_nil_left, List.take_nil]
      exact Performs.pure ⟨few.trans (none seen), rfl⟩
  | cons a firsts ih =>
      cases seconds with
      | nil =>
          rw [List.zip_nil_right, List.take_nil]
          exact Performs.pure ⟨few.trans (none seen), rfl⟩
      | cons b seconds =>
          obtain ⟨more, missing⟩ : ∃ more, left - made = more + 1 := ⟨left - made - 1, by omega⟩
          obtain ⟨first, others⟩ := List.forall_mem_cons.mp small
          obtain ⟨second, othersToo⟩ := List.forall_mem_cons.mp smallToo
          unfold batchBody
          rw [missing, List.zip_cons_cons, List.take_succ_cons, List.flatMap_cons]
          apply (quadruple_performs (.inr rfl) a b).bind
          intro said volume moved
          have bounded := moved.trans (quadrupleVolume_le first second _)
          split
          · next finished =>
            obtain rfl : more = 0 := by omega
            refine Performs.pure ⟨?_, by simp⟩
            rw [List.append_nil]
            dsimp only
            omega
          · next unfinished =>
            obtain rfl : more = left - (made + 1) := by omega
            have further : volume ≤ 4 * max bytes (max seen (largest said)) := by omega
            apply (ih (by omega) further others othersToo).weaken
            rintro later result ⟨bounded, same⟩
            rw [same, List.length_cons, Engine.largest_append]
            exact ⟨by omega, by omega⟩

theorem length_take (walk : Keys.Walk) (count : Nat) : (walk.take count).1.length = count := by
  induction count generalizing walk with
  | zero => rfl
  | succ count ih => exact congrArg (· + 1) (ih walk.next.2)

theorem length_pool {walk left : Keys.Walk} {size : Nat} {pool : Keys.Pool}
    (made : Keys.Pool.new walk size = .ok (pool, left)) : pool.pairs.length = size := by
  simp only [Keys.Pool.new] at made
  split at made
  · cases made
  split at made
  · cases made
  · cases made
    exact length_take walk size

theorem volume_le_of_pool {walk left : Keys.Walk} {size bytes : Nat} {pool : Keys.Pool}
    (made : Keys.Pool.new walk size = .ok (pool, left)) (within : walk.pairSize ≤ bytes) :
    left.pairSize = walk.pairSize ∧ ∀ pair ∈ pool.pairs, pair.volume ≤ bytes := by
  simp only [Keys.Pool.new] at made
  split at made
  · cases made
  split at made
  · cases made
  · cases made
    exact ⟨Keys.Walk.pairSize_take walk size,
      fun pair member => (Keys.Walk.volume_of_mem_take member).le.trans within⟩

/-- The pools of a batch are full, unless they are too large for any memory. -/
theorem nextBatch_yields (ready : Ready r said .batch desk) :
    Yields stage.Heard (since (Strain r) said) (nextBatch settings) desk
      fun made outcome after => made = [] ∧ Gains r .batch [] 0 desk after ∧
        ∃ firsts seconds, outcome = .ok (firsts, seconds) ∧
          firsts.length = settings.batchLength ∧ seconds.length = settings.batchLength ∧
          (∀ pair ∈ firsts, pair.volume ≤ r.pairSize) ∧
          ∀ pair ∈ seconds, pair.volume ≤ r.pairSize := by
  obtain ⟨walk, paired⟩ := Option.isSome_iff_exists.mp (ready.paired (by decide))
  have strain {walk : Keys.Walk} {cause : Panic} (within : walk.pairSize ≤ r.pairSize)
      (failed : Keys.Pool.new walk settings.batchLength = .error cause) :
      since (Strain r) said [] cause := by
    obtain ⟨memory, large⟩ := Keys.Walk.pool_bytes failed
    exact .pools ready.listed (large.trans (Nat.mul_le_mul_left _ within)) memory
  have second := ready.within.second walk paired
  unfold nextBatch
  apply Yields.reads
  rw [paired]
  dsimp only
  rcases early : Keys.Pool.new desk.worker.walk settings.batchLength with cause | ⟨firsts, left⟩
  · exact Yields.panics (strain ready.within.first early)
  rcases later : Keys.Pool.new walk settings.batchLength with cause | ⟨seconds, beyond⟩
  · exact Yields.panics (strain second later)
  obtain ⟨size, small⟩ := volume_le_of_pool early ready.within.first
  obtain ⟨sizeToo, smallToo⟩ := volume_le_of_pool later second
  have moved : Gains r .batch [] 0 desk
      { desk with worker := { desk.worker with walk := left, second := some beyond } } :=
    .moved r .batch size (by rw [paired, Option.map_some, Option.map_some, sizeToo])
  exact Yields.bind (Yields.set (Yields.pure ⟨rfl, moved, _, _, rfl, length_pool early,
    length_pool later, small, smallToo⟩))

theorem nominalBatchVolume_yields :
    Yields stage.Heard excused nominalBatchVolume desk fun made outcome after =>
      made = [] ∧ after = desk ∧
        ∃ nominal, outcome = .ok nominal ∧ nominal ≤ 4 * desk.worker.walk.pairSize := by
  have key : desk.worker.walk.shape.keySize ≤ desk.worker.walk.shape.keyLength :=
    Nat.le_max_left _ _
  unfold nominalBatchVolume
  apply Yields.reads
  refine Yields.pure ⟨rfl, rfl, _, rfl, ?_⟩
  unfold Keys.Walk.pairSize
  omega

theorem batchTransaction_performs {left bytes : Nat} (unfinished : 0 < left)
    {firsts seconds : List Pair} (small : ∀ pair ∈ firsts, pair.volume ≤ bytes)
    (smallToo : ∀ pair ∈ seconds, pair.volume ≤ bytes) :
    Performs stage excused (Exchange.fine settings .batch)
      (transactionCalls context .batch ((firsts.zip seconds).take left))
      (batchTransaction stage settings context left firsts seconds)
      fun made result => result.1 ≤ 4 * max bytes (largest made) ∧
        result.2 = ((firsts.zip seconds).take left).length := by
  apply transaction_performs rfl
  · intro excused
    have body := @batchBody_performs W stage settings context excused left 0 bytes 0 unfinished
      0 (Nat.zero_le _) firsts seconds small smallToo
    simpa using body
  · rintro before made after result ⟨few, same⟩
    simp only [Engine.largest_append]
    exact ⟨by omega, same⟩

theorem batchPass_yields (ready : Ready r said .batch desk) {left : Nat} (unfinished : 0 < left)
    {room : Nat} (enough : wordLimit ≤ said.length + room) :
    Yields stage.Heard (since (Strain r) said) (batchPass stage settings context left room) desk
      fun made outcome after =>
        ∃ brackets, Passed r context .batch left desk made outcome after brackets := by
  induction room generalizing desk left said with
  | zero =>
      refine Yields.panics (.calls ?_)
      rwa [List.append_nil]
  | succ room ih =>
      unfold batchPass
      apply (nextBatch_yields ready).bindFrom
      · rintro made cause after ⟨_, _, _, _, impossible, _⟩
        cases impossible
      rintro made pools begun ⟨rfl, moved, firsts, seconds, same, full, fullToo, small, smallToo⟩
      cases same
      have begin := moved.stays ready
      apply nominalBatchVolume_yields.bindFrom
      · rintro made cause after ⟨_, _, _, impossible, _⟩
        cases impossible
      rintro made nominal after ⟨rfl, rfl, _, same, few⟩
      cases same
      apply Yields.reads
      have filled : ((firsts.zip seconds).take left).length = min left settings.batchLength := by
        rw [List.length_take, List.length_zip, full, fullToo, Nat.min_self]
      obtain ⟨left, rfl⟩ : ∃ more, left = more + 1 := ⟨left - 1, by omega⟩
      apply tried_yields begin (batchTransaction_performs unfinished small smallToo)
      · intro made outcome scripted holds
        refine scripted.covers (by simp) ?_
        cases outcome with
        | ok result => exact (holds result rfl).1
        | error cause =>
            exact few.trans (Nat.mul_le_mul_left 4 (begin.within.first.trans (Nat.le_max_left _ _)))
      · intro made cause after scripted gains
        exact ⟨[made], .broken ⟨.batch _ filled scripted, moved.trans gains, scripted.whole_eq⟩
          cause⟩
      · rintro made ⟨volume, used⟩ middle scripted ⟨_, same⟩ gains
        obtain rfl : used = min (left + 1) settings.batchLength := same.trans filled
        have bracketed : Bracketed r context .batch (left + 1)
            ((firsts.zip seconds).take (left + 1)).length desk made true middle :=
          ⟨.batch _ filled scripted, moved.trans gains, scripted.whole_eq⟩
        rw [filled] at bracketed
        dsimp only
        split
        · next all =>
          apply Yields.pure
          rw [List.append_nil]
          exact ⟨[made], .last bracketed all⟩
        · next further =>
          obtain ⟨opening, rest, rfl⟩ := scripted.opens
          apply (ih (gains.ready begin) (by omega) (by simp; omega)).mono
          rintro more outcome after ⟨brackets, passed⟩
          exact ⟨_ :: brackets, (Passed.step bracketed passed :)⟩

end Batches

section Cursors

/-- The steps of a cursor with `left` records to go, and whether they came to a fine end. -/
inductive Walked (context left : Nat) : List Exchange → Bool → Prop where
  | spent {records : List Exchange} (taken : Taken context records)
      (all : records.length = left) : Walked context left records true
  | exhausted {records : List Exchange} {last : Answer} (taken : Taken context records)
      (some : records.length < left) (stops : last.reply = .error .notFound) :
      Walked context left (records ++ [⟨.next context .iterate .empty, last⟩]) true
  | lost {records : List Exchange} {last : Answer} {cause : EngineError}
      (taken : Taken context records) (some : records.length < left)
      (broken : last.reply = .error cause) (unknown : cause ≠ .notFound) :
      Walked context left (records ++ [⟨.next context .iterate .empty, last⟩]) false

theorem Walked.after {left : Nat} {answer : Answer} {pair : Pair} {made : List Exchange}
    {whole : Bool} (found : answer.reply = .ok pair) (walked : Walked context left made whole) :
    Walked context (left + 1) (⟨.next context .iterate .empty, answer⟩ :: made) whole := by
  have first {records : List Exchange} (taken : Taken context records) :
      Taken context (⟨.next context .iterate .empty, answer⟩ :: records) := by
    intro exchange member
    rcases List.mem_cons.mp member with rfl | member
    · exact ⟨rfl, by simp [Exchange.isRecord, found]⟩
    · exact taken exchange member
  cases walked with
  | spent taken all => exact .spent (first taken) (congrArg (· + 1) all)
  | exhausted taken some stops => exact .exhausted (first taken) (Nat.succ_lt_succ some) stops
  | lost taken some broken unknown =>
      exact .lost (first taken) (Nat.succ_lt_succ some) broken unknown

/-- A step of a cursor takes its sample of all that was said since the last one. -/
theorem cursorSteps_yields (ready : Ready r said .iterate desk) (earlier : List Exchange)
    (left : Nat) :
    Resumes stage (since (Strain r) said) desk earlier
      (cursorSteps stage context desk.shared.clock left) fun made outcome after =>
        ∃ steps, made = earlier ++ steps ∧
          Gains r .iterate made (steps.countP Exchange.isRecord) desk after ∧
          Walked context left steps outcome.isOk := by
  have none : Taken context [] := fun _ member => by cases member
  induction left generalizing desk said earlier with
  | zero =>
      exact Resumes.pure ⟨[], (List.append_nil _).symm, .asked r earlier desk, .spent none rfl⟩
  | succ left ih =>
      unfold cursorSteps
      apply Resumes.ask
      · intro answer pair found
        have counted : Exchange.isRecord ⟨.next context .iterate .empty, answer⟩ = true := by
          simp [Exchange.isRecord, found]
        have covers : r.Covers .iterate (earlier ++ [⟨.next context .iterate .empty, answer⟩])
            (pair.volume * settings.stride .iterate) := by
          refine Reckoning.covers ?_ ?_
          · rw [Engine.taken_append]
            simp [taken, counted]
          · rw [Reckoning.widest, Engine.largest_append, Engine.largest_ok found]
            simp only [Kind.moves]
            omega
        rw [Settings.stride, if_neg (by decide), Nat.mul_one] at covers
        apply (record_yields ready covers).bindFrom
        · rintro more cause after ⟨_, impossible, _⟩
          cases impossible
        · rintro more done middle ⟨rfl, _, gains⟩
          apply Yields.reads
          have rest := (@ih middle _ (gains.ready ready) []).start
          rw [← since_append] at rest
          apply Yields.mono rest
          rintro steps outcome after ⟨_, rfl, further, walked⟩
          refine ⟨⟨.next context .iterate .empty, answer⟩ :: steps, by simp, ?_,
            walked.after found⟩
          have sum := gains.trans further
          simpa [List.countP_cons, counted, Nat.add_comm] using sum
      · intro answer cause replied
        have uncounted : [⟨.next context .iterate .empty, answer⟩].countP Exchange.isRecord = 0 := by
          simp [Exchange.isRecord, replied]
        have gains := Gains.asked r (earlier ++ [⟨.next context .iterate .empty, answer⟩]) desk
        rw [← uncounted] at gains
        cases cause with
        | notFound =>
            exact Resumes.pure
              ⟨_, rfl, gains, .exhausted none (Nat.succ_pos left) replied⟩
        | unsupported what =>
            exact Resumes.fails
              ⟨_, rfl, gains, .lost none (Nat.succ_pos left) replied (by simp)⟩
        | failed reason =>
            exact Resumes.fails
              ⟨_, rfl, gains, .lost none (Nat.succ_pos left) replied (by simp)⟩

theorem Taken.fine {records : List Exchange} (taken : Taken context records) :
    records.all (Exchange.fine settings .iterate) = true := by
  rw [List.all_eq_true]
  intro exchange member
  obtain ⟨call, answer⟩ := exchange
  obtain ⟨rfl, counted⟩ := taken _ member
  rcases replied : answer.reply with pair | cause | reason
  · exact Exchange.fine_ok replied
  · simp [Exchange.isRecord, replied] at counted
  · simp [Exchange.isRecord, replied] at counted

/-- After a `begin`, the steps of a cursor that broke off are a bracket. -/
theorem Walked.broken (settings : Settings) {left : Nat} {begun : Answer} {opened : Pair}
    {made : List Exchange}
    (opens : begun.reply = .ok opened) (walked : Walked context left made false) :
    Bracket settings context left .iterate (⟨.begin context .iterate, begun⟩ :: made) left ∧
      made.all (Exchange.fine settings .iterate) = false := by
  cases walked with
  | @lost records last cause taken some broken unknown =>
      refine ⟨.lost opens taken some broken unknown, ?_⟩
      cases cause with
      | notFound => exact absurd rfl unknown
      | unsupported what => simp [Exchange.fine, broken]
      | failed reason => simp [Exchange.fine, broken]

/-- With a `begin` and a `done`, the steps of a cursor that came to a fine end are a bracket. -/
theorem Walked.closed (settings : Settings) {left : Nat} {begun : Answer} {opened : Pair}
    {made : List Exchange}
    (opens : begun.reply = .ok opened) (walked : Walked context left made true) (ended : Answer) :
    Bracket settings context left .iterate
        (⟨.begin context .iterate, begun⟩ :: made ++ [⟨.done context .iterate, ended⟩]) left ∧
      made.all (Exchange.fine settings .iterate) = true := by
  cases walked with
  | spent taken all => exact ⟨.spent opens taken all, taken.fine⟩
  | @exhausted records last taken some stops =>
      rw [List.cons_append, List.append_assoc]
      refine ⟨.exhausted opens taken some stops, ?_⟩
      simp [taken.fine, Exchange.fine, stops]

theorem samples_cursor (made : List Exchange) (begun ended : Answer) :
    samples .iterate (⟨.begin context .iterate, begun⟩ :: made) = made.countP Exchange.isRecord ∧
      samples .iterate (⟨.begin context .iterate, begun⟩ :: made ++
        [⟨.done context .iterate, ended⟩]) = made.countP Exchange.isRecord := by
  have opens : Exchange.isRecord ⟨.begin context .iterate, begun⟩ = false := rfl
  have closes : Exchange.isRecord ⟨.done context .iterate, ended⟩ = false := rfl
  simp [samples, opens, closes]

theorem iteratePass_yields (ready : Ready r said .iterate desk) (left : Nat) :
    Yields stage.Heard (since (Strain r) said) (iteratePass stage context left) desk
      fun made outcome after => Bracketed r context .iterate left left desk made
        outcome.isOk after := by
  unfold iteratePass
  apply Yields.reads
  apply Resumes.start
  apply Resumes.demand
  · intro begun opened granted
    have opens : Exchange.fine settings .iterate ⟨.begin context .iterate, begun⟩ = true :=
      Exchange.fine_ok granted
    apply (cursorSteps_yields ready [⟨.begin context .iterate, begun⟩] left).bindFrom
    · rintro steps cause after ⟨_, same, gains, walked⟩
      obtain rfl := List.append_cancel_left same
      obtain ⟨bracket, unfine⟩ := walked.broken settings granted
      refine ⟨bracket, ?_, by simp [unfine]⟩
      rw [← (samples_cursor steps begun begun).1] at gains
      exact gains
    · rintro steps done after ⟨_, same, gains, walked⟩
      obtain rfl := List.append_cancel_left same
      have closing (ended : Answer) :
          Gains r .iterate (⟨.begin context .iterate, begun⟩ :: steps ++
            [⟨.done context .iterate, ended⟩]) (samples .iterate
              (⟨.begin context .iterate, begun⟩ :: steps ++ [⟨.done context .iterate, ended⟩]))
            desk (after.answered [⟨.done context .iterate, ended⟩]) := by
        rw [(samples_cursor steps begun ended).2]
        exact gains.trans (.asked r [⟨.done context .iterate, ended⟩] after)
      have ends (ended : Answer) := walked.closed settings granted ended
      apply (demand_yields _).bindFrom
      · rintro more cause after ⟨ended, rfl, rfl, ⟨_, _, impossible⟩ | ⟨_, refused, _⟩⟩
        · cases impossible
        · obtain ⟨bracket, fine⟩ := ends ended
          have unfine : Exchange.fine settings .iterate ⟨.done context .iterate, ended⟩ = false :=
            fine_done refused
          exact ⟨bracket, closing ended, by simp [unfine]⟩
      · rintro more last after ⟨ended, rfl, rfl, ⟨_, given, _⟩ | ⟨_, _, impossible⟩⟩
        · obtain ⟨bracket, fine⟩ := ends ended
          have closes : Exchange.fine settings .iterate ⟨.done context .iterate, ended⟩ = true :=
            Exchange.fine_ok given
          apply Yields.pure
          refine ⟨bracket, closing ended, ?_⟩
          simp [opens, fine, closes]
        · cases impossible
  · intro begun cause refused
    have unfine : Exchange.fine settings .iterate ⟨.begin context .iterate, begun⟩ = false :=
      strict_bracket (.inl rfl) rfl refused
    exact ⟨.unopened refused, Gains.asked r _ desk, by
      simp [unfine]⟩

end Cursors

theorem kindSteps_yields (ready : Ready r said kind desk) (left : Nat) :
    Yields stage.Heard (since (Strain r) said) (kindSteps stage settings context kind left) desk
      fun made outcome after =>
        ∃ brackets, Passed r context kind left desk made outcome after brackets := by
  unfold kindSteps
  split
  · next none =>
    subst none
    exact Yields.pure ⟨[], .complete r kind desk⟩
  · next some =>
    cases kind with
    | set => exact pointPass_yields ready rfl left
    | get => exact pointPass_yields ready rfl left
    | delete => exact pointPass_yields ready rfl left
    | crud => exact crudPass_yields ready left
    | batch => exact batchPass_yields ready (Nat.pos_of_ne_zero some) (Nat.le_add_left _ _)
    | iterate =>
        obtain ⟨left, rfl⟩ : ∃ less, left = less + 1 := ⟨left - 1, by omega⟩
        apply (iteratePass_yields ready (left + 1)).mono
        intro made outcome after bracketed
        cases outcome with
        | ok done =>
            exact ⟨[made], .last bracketed (Nat.le_refl _)⟩
        | error cause => exact ⟨[made], .broken bracketed cause⟩

end StoreBench.Run
