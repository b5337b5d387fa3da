import StoreBench.Proofs.Run.Quadruples

/-! Batches do the work of single quadruples.

A pass of crud and a pass of batch over the same stretch make the same steps in the same order, each
in brackets of its own, and leave the same map behind.
-/

namespace StoreBench.Engine

/-- The call is a step of a kind. -/
def Call.isStep : Call → Bool
  | .next _ _ _ => true
  | _ => false

namespace Mapping

/-- On this map, and on what becomes of it, all of these calls succeed. -/
def Grants (mapping : Mapping) : List Call → Prop
  | [] => True
  | call :: calls =>
    (∀ engine : Ordered, engine.Represents mapping → ∃ pair, (engine.answer call).1 = .ok pair) ∧
      (mapping.next call).Grants calls

/-- Some exchanges are answered from this map and from what becomes of it. -/
def Answers (mapping : Mapping) : List Exchange → Prop
  | [] => True
  | exchange :: more =>
    (∃ engine : Ordered, engine.Represents mapping ∧
      exchange.answer.reply = (engine.answer exchange.call).1) ∧
        (mapping.next exchange.call).Answers more

variable {mapping : Mapping}

theorem grants_append {calls more : List Call} :
    mapping.Grants (calls ++ more) ↔
      mapping.Grants calls ∧ (calls.foldl next mapping).Grants more := by
  induction calls generalizing mapping with
  | nil => simp [Grants]
  | cons call calls ih =>
      rw [List.cons_append, Grants, Grants, ih, List.foldl_cons, and_assoc]

theorem answers_append {made more : List Exchange} :
    mapping.Answers (made ++ more) ↔
      mapping.Answers made ∧ ((made.map Exchange.call).foldl next mapping).Answers more := by
  induction made generalizing mapping with
  | nil => simp [Answers]
  | cons exchange made ih =>
      rw [List.cons_append, Answers, Answers, ih, List.map_cons, List.foldl_cons, and_assoc]

theorem Answers.calm {made : List Exchange} (answers : mapping.Answers made) :
    ∀ exchange ∈ made, ∀ reason, exchange.answer.reply ≠ .panic reason := by
  induction made generalizing mapping with
  | nil => exact nofun
  | cons first made ih =>
      obtain ⟨⟨engine, _, replied⟩, rest⟩ := answers
      rw [List.forall_mem_cons]
      refine ⟨fun reason => ?_, ih rest⟩
      rw [replied]
      exact Ordered.answer_ne_panic engine first.call reason

theorem foldl_next_steps (calls : List Call) :
    (calls.filter Call.isStep).foldl next mapping = calls.foldl next mapping := by
  induction calls generalizing mapping with
  | nil => rfl
  | cons call calls ih =>
      cases call with
      | next context kind pair => exact ih
      | _ => exact ih

end Mapping

namespace Ordered.Represents

variable {engine other : Ordered} {mapping : Mapping}

theorem of_toList (represents : engine.Represents mapping)
    (same : other.store.toList = engine.store.toList) : other.Represents mapping := by
  have sorted : other.store.Sorted := by
    unfold Store.Sorted
    rw [same]
    exact represents.sorted
  refine ⟨sorted, fun key => ?_⟩
  rw [Store.find?_eq sorted, same, ← Store.find?_eq represents.sorted, represents.find?]

theorem toList_eq (represents : engine.Represents mapping) (representsToo : other.Represents mapping) :
    engine.store.toList = other.store.toList :=
  Store.toList_ext represents.sorted representsToo.sorted fun pair => by
    rw [represents.mem_iff, representsToo.mem_iff]

end Ordered.Represents

end StoreBench.Engine

namespace StoreBench

theorem Settings.charge_eq {settings : Settings} {kind : Kind}
    (share : Nat) : settings.charge kind share = batchesFor (settings.stride kind) share := by
  unfold charge stride
  split
  · rfl
  · exact (Nat.div_one _).symm

theorem Settings.stride_pos (settings : Settings) (kind : Kind) (positive : 0 < settings.batchLength) :
    0 < settings.stride kind := by
  unfold stride
  split
  · exact positive
  · exact Nat.one_pos

namespace Run

open StoreBench.Engine (Call Exchange Mapping Ordered)
open StoreBench.Keys (Shape Walk)

variable {W : Type} {stage : Stage (StateM W)} {settings : Settings} {context : Nat} {kind : Kind}
  {shape : Shape} {space start share : Nat} {desk : Desk}

section Grants

variable {mapping : Mapping}

theorem grants_quadruple (context : Nat) {pairs : Pair × Pair} (apart : pairs.1.key ≠ pairs.2.key) :
    mapping.Grants (quadrupleCalls context pairs) := by
  obtain ⟨a, b⟩ := pairs
  have granted {mapping : Mapping} {step : Kind} {pair found : Pair}
      (known : mapping.reply? step pair = some (.ok found)) (engine : Ordered)
      (represents : engine.Represents mapping) :
      ∃ found, (engine.answer (.next context step pair)).1 = .ok found :=
    ⟨found, represents.reply? context known⟩
  have stored : (mapping.next (.next context .set b)).next (.next context .set a) b.key =
      some b.value := by
    simp only [Mapping.next]
    rw [Function.update_of_ne apart.symm, Function.update_self]
  have deleted : ((mapping.next (.next context .set b)).next (.next context .set a)).reply? .delete b =
      some (.ok b) := by
    rw [Mapping.reply?, if_neg (by rw [stored]; exact Option.some_ne_none _)]
  have got : (((mapping.next (.next context .set b)).next (.next context .set a)).next
      (.next context .delete b)).reply? .get a = some (.ok ⟨a.key, a.value⟩) := by
    simp only [Mapping.next, Mapping.reply?]
    rw [Function.update_of_ne apart, Function.update_self]
  exact ⟨granted rfl, granted rfl, granted deleted, granted got, trivial⟩

theorem grants_quadruples (context : Nat) {pairs : List (Pair × Pair)}
    (apart : ∀ each ∈ pairs, each.1.key ≠ each.2.key) :
    mapping.Grants (pairs.flatMap (quadrupleCalls context)) := by
  induction pairs generalizing mapping with
  | nil => trivial
  | cons first pairs ih =>
      obtain ⟨here, further⟩ := List.forall_mem_cons.mp apart
      rw [List.flatMap_cons, Mapping.grants_append]
      exact ⟨grants_quadruple context here, ih further⟩

theorem grants_transactions (context : Nat) (kind : Kind) {groups : List (List (Pair × Pair))}
    (apart : ∀ each ∈ groups.flatten, each.1.key ≠ each.2.key) :
    mapping.Grants (groups.flatMap (transactionCalls context kind)) := by
  have outer (call : Call) (brackets : call = .begin context kind ∨ call = .done context kind)
      (engine : Ordered) : ∃ pair, (engine.answer call).1 = .ok pair := by
    rcases brackets with rfl | rfl
    · exact ⟨.empty, rfl⟩
    · exact ⟨.empty, rfl⟩
  induction groups generalizing mapping with
  | nil => trivial
  | cons group groups ih =>
      rw [List.flatten_cons, List.forall_mem_append] at apart
      rw [List.flatMap_cons, Mapping.grants_append, transactionCalls, List.cons_append]
      refine ⟨⟨fun engine _ => outer _ (.inl rfl) engine, ?_⟩, ih apart.2⟩
      rw [Mapping.grants_append]
      exact ⟨grants_quadruples context apart.1, fun engine _ => outer _ (.inr rfl) engine, trivial⟩

theorem Scripted.granted {script : List Call} {made : List Exchange} {whole : Bool}
    (scripted : Scripted (Exchange.fine settings kind) script made whole)
    (grants : mapping.Grants script) (answers : mapping.Answers made) : whole = true := by
  induction scripted generalizing mapping with
  | complete => rfl
  | cut unfine =>
      obtain ⟨⟨engine, represents, replied⟩, _⟩ := answers
      obtain ⟨pair, granted⟩ := grants.1 engine represents
      rw [Exchange.fine_ok (replied.trans granted)] at unfine
      cases unfine
  | said well rest ih => exact ih grants.2 answers.2

end Grants

theorem filter_transactions (context : Nat) (kind : Kind) (groups : List (List (Pair × Pair))) :
    (groups.flatMap (transactionCalls context kind)).filter Call.isStep =
      groups.flatten.flatMap (quadrupleCalls context) := by
  have steps (pairs : List (Pair × Pair)) :
      (pairs.flatMap (quadrupleCalls context)).filter Call.isStep =
        pairs.flatMap (quadrupleCalls context) := by
    rw [List.filter_eq_self]
    intro call member
    obtain ⟨each, _, among⟩ := List.mem_flatMap.mp member
    simp only [quadrupleCalls, List.mem_cons, List.not_mem_nil, or_false] at among
    rcases among with rfl | rfl | rfl | rfl <;> rfl
  induction groups with
  | nil => rfl
  | cons group groups ih =>
      have opens : Call.isStep (.begin context kind) = false := rfl
      have closes : [Call.done context kind].filter Call.isStep = [] := rfl
      rw [List.flatMap_cons, List.filter_append, ih, List.flatten_cons, List.flatMap_append,
        transactionCalls, List.cons_append, List.filter_cons_of_neg (by rw [opens]; decide),
        List.filter_append, steps, closes, List.append_nil]

/-- What a context heard from the engine in view is answered from the map, which goes on as its
calls say. -/
def Charted (record : W → List Exchange) (view : W → Ordered) (mapping : Mapping) (begun : W)
    (state : Desk × W) : Prop :=
  ∃ made, record state.2 = record begun ++ made ∧ mapping.Answers made ∧
    (view state.2).Represents ((made.map Exchange.call).foldl Mapping.next mapping)

theorem Effect.charted {record : W → List Exchange} {view : W → Ordered} {mapping : Mapping}
    {begun : W} (heard : stage.Heard record) (backed : stage.Backed context view)
    {before after : Desk × W} (effect : Effect stage context before after)
    (charted : Charted record view mapping begun before) :
    Charted record view mapping begun after := by
  obtain ⟨made, listed, answers, represents⟩ := charted
  cases effect with
  | @called desk world call own =>
      refine ⟨made ++ [⟨call, (stage.engine call world).1⟩], ?_, ?_, ?_⟩
      · rw [heard.engine, ← List.append_assoc]
        exact congrArg (· ++ _) listed
      · rw [Mapping.answers_append]
        exact ⟨answers, ⟨view world, represents, backed.reply call world own⟩, trivial⟩
      · rw [List.map_append, List.foldl_append]
        exact (represents.answer call).of_toList (backed.called call world own).stored
  | published emission =>
      refine ⟨made, (heard.publish emission _).trans listed, answers, ?_⟩
      exact represents.of_toList (backed.published emission _).stored
  | _ => exact ⟨made, listed, answers, represents⟩

/-- Some pairs in batches: all but the last one are full, and the last one is not empty. -/
structure Batched (length : Nat) (pairs : List (Pair × Pair)) (groups : List (List (Pair × Pair))) :
    Prop where
  whole : groups.flatten = pairs
  count : groups.length = batchesFor length pairs.length
  full : ∀ group ∈ groups.dropLast, group.length = length
  last : ∀ group ∈ groups.getLast?, 0 < group.length ∧ group.length ≤ length

theorem Grouped.batched {length : Nat} {pairs : List (Pair × Pair)}
    {groups : List (List (Pair × Pair))} (grouped : Grouped length pairs groups)
    (positive : 0 < length) : Batched length pairs groups :=
  ⟨grouped.flatten, grouped.count positive, grouped.full_of_mem_dropLast,
    grouped.some_of_mem_getLast?⟩

def Stage.pass (stage : Stage (StateM W)) (settings : Settings) (context : Nat) (kind : Kind)
    (desk : Desk) (world : W) : (Except Stop Unit × Desk) × W :=
  runFrom (runKind stage settings context kind) desk world

/-- A pass of quadruples over these pairs came to its end: it made their steps in order, in
transactions of so many of them, and took one sample of each transaction. -/
structure QuadruplesPassed (record : W → List Exchange) (context : Nat) (kind : Kind) (length : Nat)
    (pairs : List (Pair × Pair)) (desk : Desk) (world : W)
    (ended : (Except Stop Unit × Desk) × W) : Prop where
  succeeds : ended.1.1 = .ok ()
  said : ∃ made groups, record ended.2 = record world ++ made ∧ Batched length pairs groups ∧
    made.map Exchange.call = groups.flatMap (transactionCalls context kind) ∧
    (made.map Exchange.call).filter Call.isStep = pairs.flatMap (quadrupleCalls context)
  samples : desk.Collects kind → (ended.1.2.shared.hub.accounts.get kind).total.count =
    (desk.shared.hub.accounts.get kind).total.count + batchesFor length pairs.length

theorem Yields.agree {σ α : Type} {faithful : (W → List Exchange) → Prop}
    {excused others : List Exchange → Panic → Prop} {piece : Piece W σ α} {state : σ}
    {post post' : List Exchange → Except Failure α → σ → Prop} {record : W → List Exchange}
    (hears : faithful record) (first : Yields faithful excused piece state post)
    (second : Yields faithful others piece state post') (world : W) :
    ∃ made, record (runFrom piece state world).2 = record world ++ made ∧
      Meets excused post made (runFrom piece state world).1 ∧
      Meets others post' made (runFrom piece state world).1 := by
  obtain ⟨made, heard, meets⟩ := first world
  obtain ⟨said, heardToo, meetsToo⟩ := second world
  have same := (heard record hears).symm.trans (heardToo record hears)
  obtain rfl : made = said := List.append_cancel_left same
  exact ⟨made, heard record hears, meets, meetsToo⟩

theorem Excuse.of_calm {excused : List Exchange → Panic → Prop} {made : List Exchange}
    {cause : Panic} (excuse : Excuse excused made cause)
    (calm : ∀ exchange ∈ made, ∀ reason, exchange.answer.reply ≠ .panic reason) :
    excused made cause := by
  rcases excuse with excused | ⟨exchange, member, reason, panicked, _⟩
  · exact excused
  · exact absurd panicked (calm exchange member reason)

theorem calm_of_fine {made : List Exchange} (fine : made.all (Exchange.fine settings kind) = true) :
    ∀ exchange ∈ made, ∀ reason, exchange.answer.reply ≠ .panic reason := by
  intro exchange member reason panicked
  have well := List.all_eq_true.mp fine exchange member
  simp [Exchange.fine, panicked] at well

theorem Follows.passed {record : W → List Exchange} {world left : W} {made : List Exchange}
    {outcome : Except Failure Unit} {after : Desk} {brackets : List (List Exchange)}
    (listed : record left = record world ++ made)
    (fine : made.all (Exchange.fine settings kind) = true) (positive : 0 < settings.batchLength)
    (counted : kind ≠ .iterate)
    (follows : Follows settings context kind (settings.stride kind)
      (Walk.beside shape settings.valueSize space start 0 desk.worker.share) made outcome.isOk)
    (run : KindRun settings context kind desk.worker.share brackets outcome.isOk)
    (worked : Worked (desk.reckoningOf settings kind) (brackets.map (Segment.mk kind)) made desk
      after) :
    outcome.isOk = true ∧ QuadruplesPassed record context kind (settings.stride kind)
      (Walk.beside shape settings.valueSize space start 0 desk.worker.share) desk world
      ((.ok (), after), left) := by
  obtain ⟨groups, grouped, scripted⟩ := follows
  have whole : outcome.isOk = true := scripted.whole_eq.trans fine
  rw [whole] at scripted run
  refine ⟨whole, rfl, ⟨made, groups, listed, grouped.batched (settings.stride_pos kind positive),
    scripted.calls_eq, ?_⟩, fun collected => ?_⟩
  · rw [scripted.calls_eq, filter_transactions, grouped.flatten]
  · rw [worked.count kind collected, Segment.total_self, run.charged counted fun _ => positive,
      Settings.charge_eq, Walk.length_beside]

section Passes

variable {record : W → List Exchange} {world : W}

theorem runKind_quadruples (spans : desk.Spans settings shape space start desk.worker.share)
    (some : 0 < desk.worker.share) (positive : 0 < settings.batchLength)
    (transaction : kind = .crud ∨ kind = .batch) :
    Yields stage.Heard anyhow (runKind stage settings context kind) desk
      fun made outcome _ => Follows settings context kind (settings.stride kind)
        (Walk.beside shape settings.valueSize space start 0 desk.worker.share) made
        outcome.isOk := by
  apply runKind_follows
  obtain ⟨crud, batch⟩ := @kindSteps_follows W stage settings context shape space start
    (desk.started kind) (spans.poised kind) positive desk.worker.share some
  rcases transaction with rfl | rfl
  · exact crud
  · exact batch

theorem quadruples_passed (heard : stage.Heard record)
    (spans : desk.Spans settings shape space start share) (some : 0 < share)
    (positive : 0 < settings.batchLength) (transaction : kind = .crud ∨ kind = .batch)
    (mine : desk.worker.kinds.contains kind = true)
    (fine : ∀ made, record (stage.pass settings context kind desk world).2 = record world ++ made →
      made.all (Exchange.fine settings kind) = true) :
    Overrun settings record kind desk world (stage.pass settings context kind desk world) ∨
      QuadruplesPassed record context kind (settings.stride kind)
        (Walk.beside shape settings.valueSize space start 0 share) desk world
        (stage.pass settings context kind desk world) := by
  obtain rfl := spans.share
  have counted : kind ≠ .iterate := by
    rcases transaction with rfl | rfl <;> decide
  obtain ⟨made, listed, meets, meetsToo⟩ := Yields.agree heard
    (runKind_quadruples spans some positive transaction)
    (runKind_yields (desk.affordedOf settings kind spans.paired) mine (List.mem_singleton_self _))
    world
  have well := fine made listed
  unfold Stage.pass
  generalize runFrom (runKind stage settings context kind) desk world = ended at *
  obtain ⟨⟨result, after⟩, left⟩ := ended
  rcases result with (cause | cause) | value
  · obtain ⟨brackets, rfl, run, worked⟩ := meetsToo.2
    have impossible := (meets.2.passed listed well positive counted run worked).1
    cases impossible
  · exact .inl ⟨cause, made, rfl, listed, meetsToo.of_calm (calm_of_fine well)⟩
  · obtain ⟨brackets, rfl, run, worked⟩ := meetsToo.2
    exact .inr (meets.2.passed listed well positive counted run worked).2

/-- On the ordered engine a pass of quadruples comes to its end, unless its sums or its pools are too
large, and leaves the map as its steps say. -/
theorem quadruples_mapped {view : W → Ordered} {mapping : Mapping} (heard : stage.Heard record)
    (backed : stage.Backed context view) (sound : shape.Sound) (inside : space + 1 < shape.spaces)
    (spans : desk.Spans settings shape space start share) (some : 0 < share)
    (positive : 0 < settings.batchLength) (transaction : kind = .crud ∨ kind = .batch)
    (mine : desk.worker.kinds.contains kind = true) (represents : (view world).Represents mapping) :
    Overrun settings record kind desk world (stage.pass settings context kind desk world) ∨
      (stage.pass settings context kind desk world).1.1 = .ok () ∧
        (view (stage.pass settings context kind desk world).2).Represents
          (((Walk.beside shape settings.valueSize space start 0 share).flatMap
            (quadrupleCalls context)).foldl Mapping.next mapping) := by
  obtain rfl := spans.share
  have acts : Acts stage context (runKind stage settings context kind) desk :=
    (runKind_conduct kind).acts fun _ _ _ => Alters.effect
  have begun : Charted record view mapping world (desk, world) :=
    ⟨[], (List.append_nil _).symm, trivial, represents⟩
  obtain ⟨said, charted, answers, leaves⟩ :=
    acts.keeps (fun _ _ effect => effect.charted heard backed) begun
  obtain ⟨made, listed, meets, meetsToo⟩ := Yields.agree heard
    (runKind_quadruples spans some positive transaction)
    (runKind_yields (desk.affordedOf settings kind spans.paired) mine (List.mem_singleton_self _))
    world
  obtain rfl : said = made := List.append_cancel_left (charted.symm.trans listed)
  unfold Stage.pass
  generalize runFrom (runKind stage settings context kind) desk world = ended at *
  obtain ⟨⟨result, after⟩, left⟩ := ended
  have granted {whole : Bool} (follows : Follows settings context kind (settings.stride kind)
      (Walk.beside shape settings.valueSize space start 0 desk.worker.share) said whole) :
      whole = true ∧ (said.map Exchange.call).filter Call.isStep =
        (Walk.beside shape settings.valueSize space start 0 desk.worker.share).flatMap
          (quadrupleCalls context) := by
    obtain ⟨groups, grouped, scripted⟩ := follows
    have apart : ∀ each ∈ groups.flatten, each.1.key ≠ each.2.key := by
      rw [grouped.flatten]
      exact fun _ => Walk.key_ne_of_mem_beside sound inside
    obtain rfl := scripted.granted (grants_transactions context kind apart) answers
    refine ⟨rfl, ?_⟩
    rw [scripted.calls_eq, filter_transactions, grouped.flatten]
  rcases result with (cause | cause) | value
  · have impossible := (granted meets.2).1
    cases impossible
  · exact .inl ⟨cause, said, rfl, listed, meetsToo.of_calm answers.calm⟩
  · refine .inr ⟨rfl, ?_⟩
    rw [← (granted meets.2).2, Mapping.foldl_next_steps]
    exact leaves

end Passes

/-- Passes of crud and of batch over one stretch make the same steps in order, batch in fewer
transactions, and leave the same map.  The passes of batch end by themselves, not for want of
room; only the pools of a batch and the sums of the samples may be too large. -/
structure EqualWork (stage : Stage (StateM W)) (record : W → List Exchange) (settings : Settings)
    (context : Nat) (shape : Shape) (pairs : List (Pair × Pair)) (first second : Desk) : Prop where
  bytes : (first.reckoning settings).pairSize = shape.keySize + settings.valueSize ∧
    (second.reckoning settings).pairSize = shape.keySize + settings.valueSize
  crud : ∀ world, (∀ made, record (stage.pass settings context .crud first world).2 =
      record world ++ made → made.all (Exchange.fine settings .crud) = true) →
    Overrun settings record .crud first world (stage.pass settings context .crud first world) ∨
      QuadruplesPassed record context .crud 1 pairs first world
        (stage.pass settings context .crud first world)
  batch : ∀ world, (∀ made, record (stage.pass settings context .batch second world).2 =
      record world ++ made → made.all (Exchange.fine settings .batch) = true) →
    Overrun settings record .batch second world
        (stage.pass settings context .batch second world) ∨
      QuadruplesPassed record context .batch settings.batchLength pairs second world
        (stage.pass settings context .batch second world)
  maps : ∀ view : W → Ordered, stage.Backed context view → ∀ world other,
    (view world).store.Sorted → (view other).store.toList = (view world).store.toList →
    Overrun settings record .crud first world (stage.pass settings context .crud first world) ∨
      Overrun settings record .batch second other
        (stage.pass settings context .batch second other) ∨
      (stage.pass settings context .crud first world).1.1 = .ok () ∧
        (stage.pass settings context .batch second other).1.1 = .ok () ∧
        (view (stage.pass settings context .crud first world).2).store.toList =
          (view (stage.pass settings context .batch second other).2).store.toList
  ends : ∀ desk world room more, batchesFor settings.batchLength pairs.length ≤ room →
    batchesFor settings.batchLength pairs.length ≤ more →
      runFrom (batchPass stage settings context pairs.length room) desk world =
        runFrom (batchPass stage settings context pairs.length more) desk world

theorem batch_does_crud {record : W → List Exchange} (heard : stage.Heard record)
    (sound : shape.Sound) (inside : space + 1 < shape.spaces) {first second : Desk}
    (spans : first.Spans settings shape space start share)
    (spansToo : second.Spans settings shape space start share)
    (crud : first.worker.kinds.contains .crud = true)
    (batch : second.worker.kinds.contains .batch = true)
    (some : 0 < share) (positive : 0 < settings.batchLength) :
    EqualWork stage record settings context shape
      (Walk.beside shape settings.valueSize space start 0 share) first second := by
  refine
    { bytes := ⟨spans.pairSize sound, spansToo.pairSize sound⟩
      crud := fun world fine => quadruples_passed heard spans some positive (.inl rfl) crud fine
      batch := fun world fine => quadruples_passed heard spansToo some positive (.inr rfl) batch fine
      maps := fun view backed world other sorted alike => ?_
      ends := fun desk world room more enough enoughToo => ?_ }
  · have represents : (view world).Represents fun key => (view world).store.find? key :=
      ⟨sorted, fun _ => rfl⟩
    rcases quadruples_mapped heard backed sound inside spans some positive (.inl rfl) crud
      represents with strains | ⟨ends, leaves⟩
    · exact .inl strains
    · rcases quadruples_mapped heard backed sound inside spansToo some positive (.inr rfl) batch
        (represents.of_toList alike) with strains | ⟨endsToo, leavesToo⟩
      · exact .inr (.inl strains)
      · exact .inr (.inr ⟨ends, endsToo, leaves.toList_eq leavesToo⟩)
  · rw [Walk.length_beside] at enough enoughToo ⊢
    exact batchPass_room positive some enough enoughToo world

/-- Two small key spaces, whose keys are not shuffled. -/
def plainShape : Shape where
  printable := true
  keySize := 16
  spaces := 2
  sectors := 1
  period := 7
  bits := 16
  substitution := .ofFn fun i => UInt8.ofNat i

theorem plainShape_sound : plainShape.Sound where
  keys := by decide
  spacious := by decide
  width := by decide
  domain := by decide
  long := by decide
  substitution left right same := by
    have entry (i : Fin 256) : plainShape.substitution.get i = UInt8.ofNat i :=
      Vector.getElem_ofFn i.isLt
    rw [entry, entry] at same
    have numbers := congrArg UInt8.toNat same
    rw [UInt8.toNat_ofNat', UInt8.toNat_ofNat', Nat.mod_eq_of_lt left.isLt,
      Nat.mod_eq_of_lt right.isLt] at numbers
    exact Fin.ext numbers

/-- A hub that collects crud and batch. -/
def pairingHub : Latency.Hub :=
  ((Latency.Hub.new 1000000000 0).enable .crud).enable .batch

/-- A worker of both kinds, close to the end of its key spaces. -/
def pairingDesk (settings : Settings) (share : Nat) : Option Desk :=
  match Worker.enlist settings plainShape 0 (.ofList [.crud, .batch]) 0 4 share
      (Shared.new pairingHub 0) with
  | .error _ => none
  | .ok (worker, shared) => some ⟨shared, worker⟩

theorem pairingDesk_spans (made : pairingDesk settings share = some desk) :
    desk.Spans settings plainShape 0 4 share := by
  unfold pairingDesk at made
  rcases enlisted : Worker.enlist settings plainShape 0 (.ofList [.crud, .batch]) 0 4 share
      (Shared.new pairingHub 0) with stop | ⟨worker, shared⟩
  · rw [enlisted] at made
    cases made
  · rw [enlisted] at made
    cases made
    exact enlist_spans (by decide) enlisted

/-- Two quadruples in a batch. -/
def batching : Settings :=
  { Settings.default with kinds := [.crud, .batch], batchLength := 2 }

/-- A few pairs, and nothing said so far. -/
def stockedWorld : Ordered × List Exchange :=
  (Ordered.new.after stocked, [])

/-- From these pairs the pass of a kind of the worker comes to its end, and all answers are fine. -/
def Unhindered (settings : Settings) (kind : Kind) (desk : Desk) : Prop :=
  desk.worker.kinds.contains kind = true ∧
    (Stage.ledger.pass settings 0 kind desk stockedWorld).1.1 = .ok () ∧
    (Stage.ledger.pass settings 0 kind desk stockedWorld).2.2.all (Exchange.fine settings kind) = true

instance (settings : Settings) (kind : Kind) (desk : Desk) :
    Decidable (Unhindered settings kind desk) :=
  inferInstanceAs (Decidable (_ ∧ _ ∧ _))

namespace Unhindered

theorem not_overrun (unhindered : Unhindered settings kind desk) :
    ¬ Overrun settings Prod.snd kind desk stockedWorld
      (Stage.ledger.pass settings 0 kind desk stockedWorld) := by
  rintro ⟨cause, made, panicked, _⟩
  rw [unhindered.2.1] at panicked
  cases panicked

theorem fine (unhindered : Unhindered settings kind desk) (made : List Exchange)
    (listed : (Stage.ledger.pass settings 0 kind desk stockedWorld).2.2 = stockedWorld.2 ++ made) :
    made.all (Exchange.fine settings kind) = true := by
  rw [stockedWorld, List.nil_append] at listed
  rw [← listed]
  exact unhindered.2.2

end Unhindered

theorem batch_does_crud_thrice :
    ∃ desk, pairingDesk batching 5 = some desk ∧
      QuadruplesPassed Prod.snd 0 .crud 1 (Walk.beside plainShape 32 0 4 0 5) desk stockedWorld
        (Stage.ledger.pass batching 0 .crud desk stockedWorld) ∧
      QuadruplesPassed Prod.snd 0 .batch 2 (Walk.beside plainShape 32 0 4 0 5) desk stockedWorld
        (Stage.ledger.pass batching 0 .batch desk stockedWorld) ∧
      (Stage.ledger.pass batching 0 .crud desk stockedWorld).2.1.store.toList =
        (Stage.ledger.pass batching 0 .batch desk stockedWorld).2.1.store.toList := by
  have checked : ((pairingDesk batching 5).any fun desk =>
      Unhindered batching .crud desk ∧ Unhindered batching .batch desk) = true := by
    decide +kernel
  obtain ⟨desk, made, told⟩ := (Option.any_eq_true _ _).mp checked
  have unhindered : Unhindered batching .crud desk ∧ Unhindered batching .batch desk :=
    of_decide_eq_true told
  obtain ⟨crud, batch⟩ := unhindered
  have spans := pairingDesk_spans made
  have equal : EqualWork Stage.ledger Prod.snd batching 0 plainShape
      (Walk.beside plainShape 32 0 4 0 5) desk desk :=
    batch_does_crud Stage.ledger_heard plainShape_sound (by decide) spans spans crud.1 batch.1
      (by decide) (by decide)
  have maps := equal.maps Prod.fst (Stage.ledger_backed 0) stockedWorld stockedWorld
    (Ordered.Represents.new.after stocked).sorted rfl
  exact ⟨desk, made, (equal.crud stockedWorld crud.fine).resolve_left crud.not_overrun,
    (equal.batch stockedWorld batch.fine).resolve_left batch.not_overrun,
    ((maps.resolve_left crud.not_overrun).resolve_left batch.not_overrun).2.2⟩

/-- Batches whose pools are longer than any buffer. -/
def vast : Settings :=
  { batching with batchLength := 2 ^ 58 }

/-- The memory limits the length of a batch: such a pass makes no call, where crud makes all. -/
theorem vast_batch_starved :
    ∃ desk, pairingDesk vast 5 = some desk ∧
      QuadruplesPassed Prod.snd 0 .crud 1 (Walk.beside plainShape 32 0 4 0 5) desk stockedWorld
        (Stage.ledger.pass vast 0 .crud desk stockedWorld) ∧
      (Stage.ledger.pass vast 0 .batch desk stockedWorld).1.1 = .error (.panic .allocation) ∧
      (Stage.ledger.pass vast 0 .batch desk stockedWorld).2.2 = [] := by
  have checked : ((pairingDesk vast 5).any fun desk => Unhindered vast .crud desk ∧
      (Stage.ledger.pass vast 0 .batch desk stockedWorld).1.1 = .error (.panic .allocation) ∧
      (Stage.ledger.pass vast 0 .batch desk stockedWorld).2.2 = []) = true := by
    decide +kernel
  obtain ⟨desk, made, told⟩ := (Option.any_eq_true _ _).mp checked
  have known : Unhindered vast .crud desk ∧
      (Stage.ledger.pass vast 0 .batch desk stockedWorld).1.1 = .error (.panic .allocation) ∧
      (Stage.ledger.pass vast 0 .batch desk stockedWorld).2.2 = [] := of_decide_eq_true told
  obtain ⟨crud, starved⟩ := known
  have passed := quadruples_passed Stage.ledger_heard (pairingDesk_spans made) (by decide)
    (by decide) (.inl rfl) crud.1 crud.fine
  exact ⟨desk, made, passed.resolve_left crud.not_overrun, starved⟩

end Run

end StoreBench
