import StoreBench.Proofs.Run.Layout
import StoreBench.Proofs.Run.Rehearsal
import StoreBench.Proofs.Run.Whole

/-! What a run leaves behind.

A run of the ordered engine with one category of workers finds every key that it asks for.  What it
leaves in the store follows from its settings alone: it does not depend on how often the passes are
made, nor on the order in which the workers take their turns.
-/

namespace StoreBench.Run

open StoreBench.Engine (BuiltIn Costs Probe Stocked newOrdered)
open StoreBench.Keys (Shape)
open StoreBench.Latency (Books Fitting Hub Paced Summary)

variable {W : Type}

/-- The samples of a kind that the workers on some slots record in all their passes. -/
def samplesOn (settings : Settings) (slots : List Slot) (kind : Kind) : Nat :=
  if settings.selected.contains kind then
    settings.passes * (slots.map fun slot => settings.charge kind slot.share).sum
  else 0

/-- What a run needs, besides keys and time, to end well: files that can be written, pairs that can
be addressed, and counts and volumes that fit their types. -/
structure Favorable (host : Host (StateM W)) (settings : Settings) (name : String)
    (slots : List Slot) (ready : W → Prop) : Prop where
  serves : Serves host settings name ready
  countable : settings.passes < wordLimit
  addressable : settings.keySize + settings.valueSize < wordLimit / 2
  fits : ∀ kind, samplesOn settings slots kind < wordLimit ∧
    samplesOn settings slots kind * settings.bytes kind < wordLimit

theorem sum_single_apply {kinds : List Kind} (distinct : kinds.Nodup) (counts : Kind → Nat)
    (kind : Kind) :
    (kinds.map fun chosen => (Pi.single chosen (counts chosen) : Kind → Nat)).sum kind =
      if kind ∈ kinds then counts kind else 0 := by
  induction kinds with
  | nil => rfl
  | cons first kinds ih =>
      obtain ⟨fresh, distinct⟩ := List.nodup_cons.mp distinct
      rw [List.map_cons, List.sum_cons, Pi.add_apply, ih distinct]
      by_cases same : kind = first
      · subst same
        simp [fresh]
      · simp [same]

theorem needs_eq (scene : Scene W) (slots : List Slot) :
    scene.needs slots = samplesOn scene.settings slots := by
  funext kind
  have one (slot : Slot) : scene.need slot kind =
      if scene.settings.selected.contains kind = true then
        scene.settings.charge kind slot.share else 0 := by
    unfold Scene.need Scene.passCharge
    rw [sum_single_apply (KindSet.nodup_toList _)]
    simp only [KindSet.mem_toList]
  induction slots with
  | nil => simp [Scene.needs, samplesOn]
  | cons slot slots ih =>
      rw [Scene.needs, List.map_cons, List.sum_cons, ← Scene.needs, Pi.add_apply, ih]
      simp only [Pi.smul_apply, one, nsmul_eq_mul, Nat.cast_id, samplesOn, List.map_cons,
        List.sum_cons]
      split
      · rw [Nat.mul_add]
      · simp

theorem final_stocked (scene : Scene W) {slots : List Slot} (lots : scene.Lots slots) :
    ∃ store, Stocked scene.shape scene.settings.valueSize (scene.final slots) store := by
  let stored (slot : Slot) : List Nat :=
    (List.range slot.share).map (scene.shape.spot slot.space slot.start)
  rcases keeps : scene.settings.selected.keeps with _ | _
  · have none : scene.final slots = ∅ := by
      ext point
      simp [Scene.final, keeps]
    rw [none]
    exact ⟨.empty, .empty _ _⟩
  · have listed : scene.final slots = { point | point ∈ slots.flatMap stored } := by
      ext point
      simp [Scene.final, keeps, stored, Shape.stretch, @eq_comm _ point]
    rw [listed]
    refine Stocked.exists_of_list scene.sound _ fun point member => ?_
    obtain ⟨slot, owner, member⟩ := List.mem_flatMap.mp member
    obtain ⟨steps, _, rfl⟩ := List.mem_map.mp member
    exact scene.sound.spot_lt (lots.inside slot owner)

theorem enabled_enable (hub : Hub) (kind : Kind) :
    ((hub.enable kind).accounts.get kind).enabled = true := by
  unfold Hub.enable
  split
  · assumption
  · rw [PerKind.get_set_self]

theorem books_enabled (kinds : List Kind) {hub : Hub} (books : Books [] ⟨hub, []⟩) :
    Books [] ⟨kinds.foldl Hub.enable hub, []⟩ ∧ hub.Collecting (kinds.foldl Hub.enable hub) ∧
      ∀ kind ∈ kinds, ((kinds.foldl Hub.enable hub).accounts.get kind).enabled = true := by
  have fits : Fitting [] := by decide
  induction kinds generalizing hub with
  | nil => exact ⟨books, fun _ enabled => enabled, fun _ member => by cases member⟩
  | cons first kinds ih =>
      obtain ⟨next, collecting⟩ := books.enable fits first
      obtain ⟨all, keeps, enabled⟩ := ih next
      refine ⟨all, fun kind before => keeps kind (collecting kind before), ?_⟩
      intro kind member
      rcases List.mem_cons.mp member with rfl | member
      · exact keeps kind (enabled_enable hub kind)
      · exact enabled kind member

section Preparation

variable {host : Host (StateM W)} {window : Window W} {settings : Settings} {clock : Nat}
  {engine : BuiltIn} {prepared : Prepared}

/-- A prepared run of the ordered engine, in the world of its host. -/
def sceneOf (hosts : Hosts host window)
    (accepted : prepareEngine "btreemap" settings clock = .ok (engine, prepared))
    (optionless : settings.engineOptions = []) (bounded : settings.continuous = false)
    (ready : W → Prop) (sure : Prop)
    (favorable : sure → Favorable host settings "btreemap" (prepared.plan.slots settings) ready) :
    Scene W where
  host := host
  window := window
  hosts := hosts
  settings := settings
  shape := prepared.shape
  sound := (Shape.setup_sound (prepareEngine_eq accepted).2.2.2.2.1).1
  keySize := (Shape.setup_sound (prepareEngine_eq accepted).2.2.2.2.1).2.2.1
  optionless := optionless
  bounded := bounded
  batches := (validate_eq (prepareEngine_eq accepted).1).2.2
  name := "btreemap"
  ready := ready
  quota := samplesOn settings (prepared.plan.slots settings)
  sure := sure
  serves sure := (favorable sure).serves
  fits sure := (favorable sure).fits
  addressable sure := (favorable sure).addressable

variable {hosts : Hosts host window}
  {accepted : prepareEngine "btreemap" settings clock = .ok (engine, prepared)}
  {optionless : settings.engineOptions = []} {bounded : settings.continuous = false}
  {ready : W → Prop} {sure : Prop}
  {favorable : sure → Favorable host settings "btreemap" (prepared.plan.slots settings) ready}

theorem sceneOf_lots (category : prepared.plan.readers = 0 ∨ prepared.plan.writers = 0)
    (closed : settings.selected.Closed)
    (around : settings.selected.contains .delete = true →
      ∀ slot ∈ prepared.plan.slots settings, slot.share ≤ settings.keys) :
    (sceneOf hosts accepted optionless bounded ready sure favorable).Lots
      (prepared.plan.slots settings) := by
  obtain ⟨valid, _, _, planned, shaped, _⟩ := prepareEngine_eq accepted
  obtain ⟨_, _, _, spaces, _, period⟩ := Shape.setup_sound shaped
  obtain ⟨some, repeats, _⟩ := validate_eq valid
  obtain ⟨_, step, _⟩ := Plan.new_eq planned
  refine
    { kinds := fun slot member => (Plan.slot_of_mem planned category member).1
      inside := ?_
      spare := ?_
      apart := ?_
      around := fun deletes slot member => ?_
      closed := closed
      busy := ?_
      repeats := repeats
      countable := fun sure => (favorable sure).countable }
  · intro slot member
    change slot.space < prepared.shape.spaces
    obtain ⟨_, owner, space, inside⟩ := Plan.slot_of_mem planned category member
    have positive : 0 < prepared.plan.spaceStep := by
      rw [step]
      split <;> decide
    rw [spaces, space]
    rw [Nat.succ_mul] at inside
    omega
  · intro pairing slot member
    change slot.space + 1 < prepared.shape.spaces
    obtain ⟨_, owner, space, inside⟩ := Plan.slot_of_mem planned category member
    have two : prepared.plan.spaceStep = 2 := step.trans (if_pos pairing)
    rw [spaces, space]
    rw [two] at inside ⊢
    omega
  · intro pairing slot member other memberToo
    obtain ⟨_, owner, space, _⟩ := Plan.slot_of_mem planned category member
    obtain ⟨_, holder, spaceToo, _⟩ := Plan.slot_of_mem planned category memberToo
    have two : prepared.plan.spaceStep = 2 := step.trans (if_pos pairing)
    rw [two] at space spaceToo
    omega
  · change slot.share ≤ prepared.shape.period
    rw [period]
    exact around deletes slot member
  · change settings.selected.isEmpty = false
    obtain ⟨kind, listed⟩ := List.exists_mem_of_ne_nil _ some
    by_contra filled
    have absent := KindSet.contains_empty (Bool.eq_true_of_not_eq_false filled) kind
    have present := (KindSet.contains_ofList settings.kinds kind).mpr listed
    rw [Settings.selected] at absent
    rw [absent] at present
    cases present

theorem sceneOf_open {world : W} (sane : window.sane world)
    (fresh : engine = .ordered (window.engine world)) (silent : window.calls world = [])
    (available : sure → ready world) :
    (sceneOf hosts accepted optionless bounded ready sure favorable).Open ∅
      (samplesOn settings (prepared.plan.slots settings)) [] prepared.shared world := by
  obtain ⟨_, created, _, planned, _, interval, shared⟩ := prepareEngine_eq accepted
  have empty : window.engine world = .new := by
    change newOrdered settings.durability = .ok engine at created
    unfold newOrdered at created
    split at created
    · cases created
    · split at created
      · cases created
      · exact (BuiltIn.ordered.inj ((Except.ok.inj created).trans fresh)).symm
  obtain ⟨books, _, collects⟩ :=
    books_enabled prepared.plan.selected.toList (Books.start interval clock)
  have enabled (kind : Kind) (selected : settings.selected.contains kind = true) :
      ((prepared.plan.selected.toList.foldl Hub.enable (.new interval clock)).accounts.get
        kind).enabled = true := by
    refine collects kind ?_
    rw [(Plan.new_eq planned).1]
    exact (KindSet.mem_toList _ kind).mpr selected
  rw [shared]
  refine
    { holds :=
        { sane := sane
          clean := fun entry member => ?_
          stocked := ?_
          ready := available }
      running := rfl
      roomy := fun _ => le_refl _
      charged := ⟨enabled, Hub.total_enable (Hub.total_new _ _ _) _⟩
      booked := fun _ => ⟨[], books, Paced.start _ _ _, enabled⟩ }
  · change entry ∈ window.calls world at member
    rw [silent] at member
    cases member
  · change Stocked _ _ _ (window.engine world).store
    rw [empty]
    exact .empty _ _

/-- The pairs that a run leaves in the store: those of all stretches, if the selection keeps
them. -/
def Kept (settings : Settings) (prepared : Prepared) (pair : Pair) : Prop :=
  settings.selected.keeps = true ∧ ∃ slot ∈ prepared.plan.slots settings, ∃ steps < slot.share,
    pair = prepared.shape.pairAt
      (slot.space * settings.keys + (slot.start + steps) % settings.keys) settings.valueSize 0

/-- A run of a prepared engine that was not used before, with all workers taking their turns in
some order. -/
structure FreshRun (host : Host (StateM W)) (window : Window W) (engine : BuiltIn)
    (prepared : Prepared) (turns : Turns) (world : W) (result : Except Stop (List Summary))
    (after : W) : Prop where
  order : turns.order.Perm (List.range (prepared.plan.slots prepared.settings).length)
  sane : window.sane world
  engine : engine = .ordered (window.engine world)
  calls : window.calls world = []
  ends : ∃ shared, runFrom (runAll host "btreemap" prepared turns) prepared.shared world =
    ((result, shared), after)

theorem FreshRun.goes {turns : Turns} {world after : W} {result : Except Stop (List Summary)}
    (run : FreshRun host window engine prepared turns world result after)
    (lots : (sceneOf hosts accepted optionless bounded ready sure favorable).Lots
      (prepared.plan.slots settings))
    (available : sure → ready world) (unbroken : sure → turns.broken = []) :
    match result with
    | .ok summaries => ∃ shared,
      (sceneOf hosts accepted optionless bounded ready sure favorable).Told
        ((sceneOf hosts accepted optionless bounded ready sure favorable).final
          (prepared.plan.slots settings)) summaries shared after
    | .error _ =>
      (sceneOf hosts accepted optionless bounded ready sure favorable).Spoiled after := by
  have same := (prepareEngine_eq accepted).2.2.1
  have order := run.order
  rw [same] at order
  have opened := @sceneOf_open W host window settings clock engine prepared hosts accepted
    optionless bounded ready sure favorable world run.sane run.engine run.calls available
  have whole : (sceneOf hosts accepted optionless bounded ready sure favorable).needs
      (prepared.plan.slots settings) = samplesOn settings (prepared.plan.slots settings) :=
    needs_eq _ _
  rw [← whole] at opened
  have goes := Scene.runAll_goes same rfl lots turns unbroken order prepared.shared world opened
  obtain ⟨shared, taken⟩ := run.ends
  change Ends _ _ (runFrom (runAll host "btreemap" prepared turns) prepared.shared world) at goes
  rw [taken] at goes
  cases result with
  | ok summaries => exact ⟨shared, goes⟩
  | error cause => exact goes

theorem FreshRun.ended {turns : Turns} {world after : W} {result : Except Stop (List Summary)}
    (run : FreshRun host window engine prepared turns world result after)
    (lots : (sceneOf hosts accepted optionless bounded ready sure favorable).Lots
      (prepared.plan.slots settings))
    (available : sure → ready world) (unbroken : sure → turns.broken = []) :
    match result with
    | .ok _ =>
      (sceneOf hosts accepted optionless bounded ready sure favorable).Holds
        ((sceneOf hosts accepted optionless bounded ready sure favorable).final
          (prepared.plan.slots settings)) after
    | .error _ =>
      (sceneOf hosts accepted optionless bounded ready sure favorable).Spoiled after := by
  have goes := run.goes lots available unbroken
  cases result with
  | ok summaries =>
      obtain ⟨_, told⟩ := goes
      exact told.done.holds
  | error cause => exact goes

theorem FreshRun.succeeds {turns : Turns} {world after : W} {result : Except Stop (List Summary)}
    (run : FreshRun host window engine prepared turns world result after)
    {favorable : Favorable host settings "btreemap" (prepared.plan.slots settings) ready}
    (lots : (sceneOf hosts accepted optionless bounded ready True fun _ => favorable).Lots
      (prepared.plan.slots settings))
    (available : ready world) (unbroken : turns.broken = [])
    (timely : window.time after < wordLimit) : ∃ summaries, result = .ok summaries := by
  have goes := run.goes lots (fun _ => available) fun _ => unbroken
  cases result with
  | ok summaries => exact ⟨summaries, rfl⟩
  | error cause => exact absurd ⟨trivial, timely⟩ goes.unfine

/-- A fresh run of one category of workers never misses a key.  With files, memory and time enough
it succeeds, and what it then leaves in the store follows from the settings, whatever the order of
the workers. -/
theorem fresh_runs_determined (hosts : Hosts host window)
    (accepted : prepareEngine "btreemap" settings clock = .ok (engine, prepared))
    (optionless : settings.engineOptions = []) (bounded : settings.continuous = false)
    (category : prepared.plan.readers = 0 ∨ prepared.plan.writers = 0)
    (closed : settings.selected.Closed)
    (around : settings.selected.contains .delete = true →
      ∀ slot ∈ prepared.plan.slots settings, slot.share ≤ settings.keys) :
    ∃ contents : List Pair,
      contents.Pairwise (fun left right => left.key < right.key) ∧
      (∀ pair, pair ∈ contents ↔ Kept settings prepared pair) ∧
      (settings.selected.meets .pairing = true →
        ∀ pair ∈ contents, ∀ slot ∈ prepared.plan.slots settings, ∀ serial < settings.keys,
          pair.key ≠ (prepared.shape.keyAt ((slot.space + 1) * settings.keys + serial)).1) ∧
      ∀ turns world result after, FreshRun host window engine prepared turns world result after →
        (∀ entry ∈ window.calls after, entry.missesKey = false) ∧
        (∀ summaries, result = .ok summaries → (window.engine after).store.toList = contents) ∧
        (∀ ready, Favorable host settings "btreemap" (prepared.plan.slots settings) ready →
          ready world → turns.broken = [] → window.time after < wordLimit →
          ∃ summaries, result = .ok summaries) := by
  obtain ⟨_, _, _, _, shaped, _⟩ := prepareEngine_eq accepted
  obtain ⟨sound, _, _, _, _, period⟩ := Shape.setup_sound shaped
  -- What is left, and that no key was missed, needs nothing of the files and the sums.
  have lots : (sceneOf hosts accepted optionless bounded (fun _ => True) False False.elim).Lots
      (prepared.plan.slots settings) := sceneOf_lots category closed around
  obtain ⟨store, stocked⟩ := final_stocked _ lots
  have kept (pair : Pair) : pair ∈ store.toList ↔ Kept settings prepared pair := by
    rw [stocked.mem_iff]
    unfold Kept
    rw [← period]
    constructor
    · intro given
      obtain ⟨_, ⟨keeps, slot, member, steps, early, rfl⟩, rfl⟩ := given
      exact ⟨keeps, slot, member, steps, early, rfl⟩
    · intro given
      obtain ⟨keeps, slot, member, steps, early, rfl⟩ := given
      exact ⟨_, ⟨keeps, slot, member, steps, early, rfl⟩, rfl⟩
  refine ⟨store.toList, stocked.sorted, kept, ?_, ?_⟩
  · intro pairing pair member slot owner serial small same
    obtain ⟨_, other, ownerToo, steps, _, rfl⟩ := (kept pair).mp member
    rw [← period] at small same
    refine lots.apart pairing slot owner other ownerToo ?_
    exact ((sound.key_eq_iff (lots.inside other ownerToo) (Nat.mod_lt _ sound.keys)
      (lots.spare pairing slot owner) small).mp same).1
  · intro turns world result after run
    have plain := run.ended lots False.elim False.elim
    refine ⟨?_, ?_, ?_⟩
    · cases result with
      | ok summaries => exact plain.clean
      | error cause => exact plain.clean
    · intro summaries same
      obtain rfl := same
      exact plain.stocked.toList_eq stocked
    · intro ready favorable available unbroken timely
      have surely : (sceneOf hosts accepted optionless bounded ready True fun _ => favorable).Lots
          (prepared.plan.slots settings) := sceneOf_lots category closed around
      have ended := run.ended surely (fun _ => available) fun _ => unbroken
      cases result with
      | ok summaries => exact ⟨summaries, rfl⟩
      | error cause => exact absurd ⟨trivial, timely⟩ ended.unfine

end Preparation

/-- Two writers on seven operations of five keys each, pass after pass. -/
def rehearsed : Settings :=
  { Settings.default with
    kinds := [.set, .get, .delete, .batch, .crud]
    count := 7
    keys := 5
    batchLength := 2
    passes := 3
    writers := 2
    folder := "/tmp" }

theorem rehearsed_accepted : ∃ prepared,
    prepareEngine "btreemap" rehearsed 0 = .ok (.ordered .new, prepared) ∧
      prepared.plan = ⟨rehearsed.selected, .empty, rehearsed.selected, 0, 2, 2, 4, 2⟩ := by
  have accepted : (prepareEngine "btreemap" rehearsed 0).isOk = true := by decide +kernel
  rcases outcome : prepareEngine "btreemap" rehearsed 0 with cause | ⟨engine, prepared⟩
  · rw [outcome] at accepted
    cases accepted
  · obtain ⟨_, created, _, planned, _⟩ := prepareEngine_eq outcome
    have made : Engine.create "btreemap" rehearsed.durability = .ok (.ordered .new) := rfl
    have plan : Plan.new rehearsed =
        .ok ⟨rehearsed.selected, .empty, rehearsed.selected, 0, 2, 2, 4, 2⟩ := rfl
    obtain rfl := Except.ok.inj (created.symm.trans made)
    exact ⟨prepared, rfl, Except.ok.inj (planned.symm.trans plan)⟩

theorem rehearsed_favorable {prepared : Prepared}
    (plan : prepared.plan = ⟨rehearsed.selected, .empty, rehearsed.selected, 0, 2, 2, 4, 2⟩) :
    Favorable Sandbox.probed rehearsed "btreemap" (prepared.plan.slots rehearsed)
      fun sandbox => sandbox.files = .fresh where
  serves := Sandbox.probed_serves rfl rfl _
  countable := by decide
  addressable := by decide
  fits := by
    rw [plan]
    intro kind
    cases kind <;> decide

theorem rehearsal_fresh {prepared : Prepared}
    (accepted : prepareEngine "btreemap" rehearsed 0 = .ok (.ordered .new, prepared))
    (plan : prepared.plan = ⟨rehearsed.selected, .empty, rehearsed.selected, 0, 2, 2, 4, 2⟩) :
    let sandbox : Sandbox (Probe BuiltIn) := .new (.new (.ordered .new) [] ⟨0, [], 0⟩) .fresh
    let ended :=
      runFrom (runAll Sandbox.probed "btreemap" prepared ⟨[1, 0], []⟩) prepared.shared sandbox
    FreshRun Sandbox.probed (Sandbox.window ⟨0, [], 0⟩) (.ordered .new) prepared
      ⟨[1, 0], []⟩ sandbox ended.1.1 ended.2 where
  order := by
    rw [(prepareEngine_eq accepted).2.2.1, plan]
    decide
  sane := ⟨rfl, rfl, _, rfl⟩
  engine := rfl
  calls := rfl
  ends := ⟨_, rfl⟩

theorem rehearsal_timely (sandbox : Sandbox (Probe BuiltIn)) :
    (Sandbox.window ⟨0, [], 0⟩).time sandbox < wordLimit := by
  have free (call : Engine.Call) : (⟨0, [], 0⟩ : Costs).of call = 0 := by cases call <;> rfl
  simp [Sandbox.window, free, wordLimit]

theorem fresh_runs_determined_rehearsed : ∃ prepared contents,
    prepareEngine "btreemap" rehearsed 0 = .ok (.ordered .new, prepared) ∧
      (∀ pair, pair ∈ contents ↔ Kept rehearsed prepared pair) ∧
      let sandbox : Sandbox (Probe BuiltIn) :=
        .new (.new (.ordered .new) [] ⟨0, [], 0⟩) .fresh
      let ended :=
        runFrom (runAll Sandbox.probed "btreemap" prepared ⟨[1, 0], []⟩) prepared.shared sandbox
      (∃ summaries, ended.1.1 = .ok summaries) ∧
        (∀ entry ∈ ended.2.engine.calls, entry.missesKey = false) ∧
        ((Sandbox.window ⟨0, [], 0⟩).engine ended.2).store.toList = contents := by
  obtain ⟨prepared, accepted, plan⟩ := rehearsed_accepted
  have same := (prepareEngine_eq accepted).2.2.1
  obtain ⟨contents, _, kept, _, runs⟩ := fresh_runs_determined
    (Sandbox.probed_hosts (by decide : (⟨0, [], 0⟩ : Costs).next.length ≤ 1)) accepted rfl rfl
    (.inl (by rw [plan])) (fun _ => by decide) (fun _ => by rw [plan]; decide)
  refine ⟨prepared, contents, accepted, kept, ?_⟩
  intro sandbox ended
  have run : FreshRun Sandbox.probed (Sandbox.window ⟨0, [], 0⟩) (.ordered .new) prepared
      ⟨[1, 0], []⟩ sandbox ended.1.1 ended.2 :=
    { order := by
        rw [same, plan]
        decide
      sane := ⟨rfl, rfl, _, rfl⟩
      engine := rfl
      calls := rfl
      ends := ⟨ended.1.2, rfl⟩ }
  obtain ⟨clean, leaves, succeeds⟩ := runs _ _ _ _ run
  have free (call : Engine.Call) : (⟨0, [], 0⟩ : Costs).of call = 0 := by cases call <;> rfl
  obtain ⟨summaries, fine⟩ := succeeds (fun sandbox => sandbox.files = .fresh)
    { serves := Sandbox.probed_serves rfl rfl _
      countable := by decide
      addressable := by decide
      fits := by
        rw [plan]
        intro kind
        cases kind <;> decide } rfl rfl (by simp [Sandbox.window, free, wordLimit])
  exact ⟨⟨summaries, fine⟩, clean, leaves summaries fine⟩

end StoreBench.Run
