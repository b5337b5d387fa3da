import StoreBench.Proofs.Keys.Generator
import StoreBench.Proofs.Keys.Stretches

/-! Rounds through a key space.

From any start a walk meets every key of its space once, and then the same keys again, in the same
order.  Which key is met after how many steps depends on the space and on the start, and on nothing
else: not on the way in which pairs were asked for, nor on what the walk did before.
-/

namespace StoreBench.Keys

namespace Shape

variable {shape : Shape} {space start steps : Nat}

/-- The pair of a coordinate, in the way it was asked for. -/
def drawn (shape : Shape) (point valueSize : Nat) (age : UInt64) : Draw → Pair
  | .get true => ⟨(shape.keyAt point).1, []⟩
  | .get false => shape.pairAt point valueSize age
  | .into _ _ => shape.pairAt point valueSize age

/-- The pairs met from a start on, one for each way of asking. -/
def round (shape : Shape) (space start valueSize : Nat) (age : UInt64) (ways : List Draw) :
    List Pair :=
  ways.mapIdx fun steps way => shape.drawn (shape.spot space start steps) valueSize age way

theorem drawn_key (point valueSize : Nat) (age : UInt64) (way : Draw) :
    (shape.drawn point valueSize age way).key = (shape.keyAt point).1 := by
  cases way with
  | get keyOnly =>
      cases keyOnly with
      | false => exact shape.pairAt_key point valueSize age
      | true => rfl
  | into key value => exact shape.pairAt_key point valueSize age

theorem spot_succ :
    shape.spot space ((start + 1) % shape.period) steps = shape.spot space start (steps + 1) := by
  rw [spot, spot, Nat.mod_add_mod, Nat.add_assoc, Nat.add_comm 1 steps]

theorem spot_period : shape.spot space start (steps + shape.period) =
    shape.spot space start steps := by
  rw [spot, spot, ← Nat.add_assoc, Nat.add_mod_right]

/-- Steps less than a period apart lead to different coordinates. -/
theorem spot_inj {skipped left right : Nat} (ahead : skipped ≤ left) (aheadToo : skipped ≤ right)
    (around : left < skipped + shape.period) (aroundToo : right < skipped + shape.period)
    (same : shape.spot space start left = shape.spot space start right) : left = right := by
  -- Counted from where the skipping ends, both are less than a period away.
  have shifted {steps : Nat} (reached : skipped ≤ steps) :
      shape.spot space start steps = shape.spot space (start + skipped) (steps - skipped) := by
    rw [spot, spot, Nat.add_assoc, Nat.add_sub_cancel' reached]
  rw [shifted ahead, shifted aheadToo] at same
  rcases Nat.lt_trichotomy left right with before | equal | after
  · exact absurd same.symm (spot_ne (by omega) (by omega))
  · exact equal
  · exact absurd same (spot_ne (by omega) (by omega))

theorem round_cons (valueSize : Nat) (age : UInt64) (way : Draw) (ways : List Draw) :
    shape.round space start valueSize age (way :: ways) =
      shape.drawn (shape.spot space start 0) valueSize age way ::
        shape.round space ((start + 1) % shape.period) valueSize age ways := by
  simp only [round, List.mapIdx_cons, spot_succ]

theorem round_keys (valueSize : Nat) (age : UInt64) (ways : List Draw) :
    (shape.round space start valueSize age ways).map Pair.key =
      (List.range ways.length).map fun steps => (shape.keyAt (shape.spot space start steps)).1 := by
  refine List.ext_getElem ?_ fun index inside _ => ?_
  · simp only [round, List.length_map, List.length_mapIdx, List.length_range]
  · simp only [round, List.getElem_map, List.getElem_mapIdx, List.getElem_range, drawn_key]

end Shape

namespace Walk

/-- The walks at the beginning of a round: newly made, or told to start again after whatever they
did before. -/
inductive Started (shape : Shape) (space start : Nat) : Walk → Prop where
  | new {valueSize : Nat} {age : UInt64} {walk : Walk}
      (made : Walk.new shape space start valueSize age = .ok walk) : Started shape space start walk
  | rewind {walk : Walk} (belongs : Over shape space walk) :
      Started shape space start (walk.rewind start)

def keys (walk : Walk) (ways : List Draw) : List Bytes :=
  (walk.draws ways).1.map Pair.key

theorem draws_cons (walk : Walk) (way : Draw) (ways : List Draw) :
    walk.draws (way :: ways) =
      ((walk.draw way).1 :: (walk.advance.draws ways).1, (walk.advance.draws ways).2) := by
  rw [← walk.draw_walk way]
  rfl

theorem draw_eq {walk : Walk} (early : walk.serial < walk.shape.period) (way : Draw) :
    (walk.draw way).1 =
      walk.shape.drawn (walk.shape.spot walk.space walk.serial 0) walk.valueSize walk.age way := by
  have here : walk.shape.spot walk.space walk.serial 0 = walk.point := by
    rw [Shape.spot, Nat.add_zero, Nat.mod_eq_of_lt early]
    rfl
  rw [here]
  cases way with
  | get keyOnly =>
      cases keyOnly with
      | false => rfl
      | true => rfl
  | into key value => rfl

theorem draws_eq {walk : Walk} (early : walk.serial < walk.shape.period) (ways : List Draw) :
    walk.draws ways =
      (walk.shape.round walk.space walk.serial walk.valueSize walk.age ways,
        walk.forward ways.length) := by
  induction ways generalizing walk with
  | nil =>
      rw [List.length_nil, forward_zero early]
      rfl
  | cons way ways ih =>
      have positive : 0 < walk.shape.period := Nat.lt_of_le_of_lt (Nat.zero_le _) early
      -- What follows is the round of the walk one step on, which starts one serial number later.
      have rest := @ih walk.advance (Nat.mod_lt _ positive)
      rw [draws_cons, rest, advance_forward, draw_eq early, Shape.round_cons, List.length_cons]
      rfl

theorem obey_frame (walk : Walk) (commands : List Command) :
    (walk.obey commands).2.valueSize = walk.valueSize ∧ (walk.obey commands).2.age = walk.age := by
  induction commands generalizing walk with
  | nil => exact ⟨rfl, rfl⟩
  | cons command commands ih =>
      cases command with
      | rewind start => exact ih (walk.rewind start.toNat)
      | draw way =>
          have rest := ih walk.advance
          rw [← walk.draw_walk way] at rest
          rw [obey, rest.1, rest.2, walk.draw_walk way]
          exact ⟨rfl, rfl⟩

theorem obey_draws (walk : Walk) (ways : List Draw) :
    walk.obey (ways.map .draw) = walk.draws ways := by
  induction ways generalizing walk with
  | nil => rfl
  | cons way ways ih =>
      simp only [List.map_cons, obey, draws, ih]

namespace Over

variable {shape : Shape} {space : Nat} {walk : Walk}

theorem draw (belongs : Over shape space walk) (way : Draw) :
    Over shape space (walk.draw way).2 := by
  cases way with
  | get keyOnly =>
      cases keyOnly with
      | false => exact belongs.next
      | true => exact belongs.nextKey
  | into key value => exact belongs.next

theorem obey (belongs : Over shape space walk) (commands : List Command) :
    Over shape space (walk.obey commands).2 := by
  induction commands generalizing walk with
  | nil => exact belongs
  | cons command commands ih =>
      cases command with
      | rewind start => exact ih (belongs.rewind start.toNat)
      | draw way => exact ih (belongs.draw way)

theorem regular (belongs : Over shape space walk) (sound : shape.Sound)
    (period : shape.period < wordLimit) : walk.Regular := by
  obtain ⟨rfl, rfl, inside, early⟩ := belongs.inside sound.keys
  exact ⟨sound, period, inside, early⟩

end Over

namespace Started

variable {shape : Shape} {space start : Nat} {walk : Walk}

theorem belongs (started : Started shape space start walk) : Over shape space walk := by
  cases started with
  | new made => exact .new made
  | rewind belongs => exact belongs.rewind start

theorem begins (started : Started shape space start walk) (keys : 0 < shape.period) :
    walk.shape = shape ∧ walk.space = space ∧ space < shape.spaces ∧
      walk.serial = start % shape.period := by
  cases started with
  | new made =>
      obtain ⟨same, place, inside, early⟩ := (Over.new made).inside keys
      refine ⟨same, place, inside, ?_⟩
      unfold Walk.new at made
      split at made
      · cases made
      split at made
      · cases made
      split at made
      · cases made
      cases made
      rfl
  | rewind belongs =>
      obtain ⟨same, place, inside, early⟩ := belongs.inside keys
      exact ⟨same, place, inside, by rw [Walk.rewind, same]⟩

theorem draws_eq (started : Started shape space start walk) (keys : 0 < shape.period)
    (ways : List Draw) :
    walk.draws ways =
      (shape.round space (start % shape.period) walk.valueSize walk.age ways,
        walk.forward ways.length) := by
  obtain ⟨rfl, rfl, inside, serial⟩ := started.begins keys
  rw [← serial]
  exact Walk.draws_eq (serial ▸ Nat.mod_lt _ keys) ways

theorem keys_eq (started : Started shape space start walk) (keys : 0 < shape.period)
    (ways : List Draw) :
    walk.keys ways = (List.range ways.length).map fun steps =>
      (shape.keyAt (shape.spot space (start % shape.period) steps)).1 := by
  rw [Walk.keys, started.draws_eq keys, Shape.round_keys]

end Started

/-- What a walk gives out from a start on. -/
structure Rounds (shape : Shape) (space start : Nat) (walk : Walk) : Prop where
  pairs : ∀ ways, (walk.draws ways).1 =
    shape.round space (start % shape.period) walk.valueSize walk.age ways
  serial : ∀ ways,
    (walk.draws ways).2.serial = (start % shape.period + ways.length) % shape.period
  apart : ∀ ways skipped, (((walk.keys ways).drop skipped).take shape.period).Nodup
  again : ∀ ways steps, steps + shape.period < ways.length →
    (walk.keys ways)[steps + shape.period]? = (walk.keys ways)[steps]?
  steady : ∀ other ways others, Started shape space start other → ways.length = others.length →
    walk.keys ways = other.keys others

theorem Started.rounds {shape : Shape} {space start : Nat} {walk : Walk}
    (started : Started shape space start walk) (sound : shape.Sound) :
    Rounds shape space start walk := by
  obtain ⟨same, place, inside, begins⟩ := started.begins sound.keys
  have keys := started.keys_eq sound.keys
  refine
    { pairs := fun ways => by rw [started.draws_eq sound.keys]
      serial := fun ways => ?_
      apart := fun ways skipped => ?_
      again := fun ways steps early => ?_
      steady := fun other ways others begun many => ?_ }
  · rw [started.draws_eq sound.keys, forward, begins, same]
  · rw [keys, ← List.map_drop, ← List.map_take]
    have window : ∀ steps ∈ ((List.range ways.length).drop skipped).take shape.period,
        skipped ≤ steps ∧ steps < skipped + shape.period := by
      intro steps member
      obtain ⟨index, early, rfl⟩ := List.getElem_of_mem member
      rw [List.length_take] at early
      rw [List.getElem_take, List.getElem_drop, List.getElem_range]
      omega
    refine List.Nodup.map_on (fun left member right memberToo equal => ?_) ?_
    · have points := sound.keyAt_injective (sound.spot_lt inside) (sound.spot_lt inside) equal
      exact Shape.spot_inj (window left member).1 (window right memberToo).1
        (window left member).2 (window right memberToo).2 points
    · exact (List.nodup_range.sublist (List.drop_sublist _ _)).sublist (List.take_sublist _ _)
  · rw [keys, List.getElem?_map, List.getElem?_map, List.getElem?_range early,
      List.getElem?_range (by omega), Option.map_some, Option.map_some, Shape.spot_period]
  · rw [keys, begun.keys_eq sound.keys, many]

end Walk

namespace Generator

/-- Where the generator is, a round begins, whatever is in its buffer, and none of its steps fails
on the way. -/
def Turns (generator : Generator) (shape : Shape) (space start valueSize : Nat) (age : UInt64) :
    Prop :=
  ∀ ways : List Draw, (∀ way ∈ ways, way.Suits shape.keySize valueSize) →
    ∃ last, generator.obey? (ways.map .draw) =
        some (shape.round space (start % shape.period) valueSize age ways, last) ∧
      last.serial.toNat = (start % shape.period + ways.length) % shape.period

theorem Represents.turns {generator : Generator} {walk : Walk} {shape : Shape} {space start : Nat}
    (represents : generator.Represents walk) (started : walk.Started shape space start)
    (sound : shape.Sound) (period : shape.period < wordLimit) :
    generator.Turns shape space start walk.valueSize walk.age := by
  intro ways suits
  have regular := started.belongs.regular sound period
  obtain ⟨rfl, _, _, begins⟩ := started.begins sound.keys
  have drawn : ∀ command ∈ ways.map Command.draw,
      command.Suits walk.shape.keySize walk.valueSize := by
    intro command member
    obtain ⟨way, asked, rfl⟩ := List.mem_map.mp member
    exact suits way asked
  obtain ⟨last, obeyed, follows⟩ := represents.obey regular drawn
  rw [walk.obey_draws, started.draws_eq sound.keys] at obeyed follows
  exact ⟨last, obeyed, by rw [follows.serial, Walk.forward, begins]⟩

end Generator

/-- The walks over a shape, and the generators that follow them in words, go round. -/
structure Cyclic (shape : Shape) : Prop where
  walks : ∀ space start walk, Walk.Started shape space start walk →
    Walk.Rounds shape space start walk
  words : ∀ (space start : UInt64) (valueSize : Nat) (age : UInt64), space.toNat < shape.spaces →
    shape.keySize + valueSize < wordLimit / 2 →
    ∃ walk generator, Walk.new shape space.toNat start.toNat valueSize age = .ok walk ∧
      Generator.new shape space start valueSize age = .ok generator ∧
      generator.Turns shape space.toNat start.toNat valueSize age ∧
      ∀ commands : List Command, (∀ command ∈ commands, command.Suits shape.keySize valueSize) →
        ∃ next, generator.obey? commands = some ((walk.obey commands).1, next) ∧
          next.serial.toNat = (walk.obey commands).2.serial ∧
          ∀ again : UInt64, ∃ rewound, next.rewind? again = some rewound ∧
            rewound.Turns shape space.toNat again.toNat valueSize age

/-- A generator that can hold a pair goes round its key space from any start, and no arithmetic,
index or assertion of it fails on the way. -/
theorem walks_cyclic {printable : Bool} {keySize : Nat} {spaces sectors period seed : UInt64}
    {shape : Shape}
    (accepted : Shape.setup printable keySize spaces.toNat sectors.toNat period.toNat seed =
      .ok shape) : Cyclic shape := by
  obtain ⟨sound, word⟩ := Shape.setup_word accepted
  refine
    { walks := fun space start walk started => started.rounds sound
      words := fun space start valueSize age inside small => ?_ }
  have made := @Walk.new_ok shape space.toNat start.toNat valueSize age inside small
  rcases Generator.new_represents sound word space start valueSize age with
    ⟨stop, failed, _⟩ | ⟨walk, generator, same, built, regular, represents⟩
  · rw [made] at failed
    cases failed
  rw [made] at same
  cases same
  have belongs := Walk.Over.new made
  refine ⟨_, generator, made, built, represents.turns (.new made) sound word, ?_⟩
  intro commands suits
  obtain ⟨next, obeyed, follows⟩ := represents.obey regular suits
  refine ⟨next, obeyed, follows.serial, fun again => ?_⟩
  have later := belongs.obey commands
  obtain ⟨rewound, done, fresh⟩ := follows.rewind (later.regular sound word) again
  have turns := fresh.turns (.rewind later) sound word
  obtain ⟨valueSizes, ages⟩ := Walk.obey_frame _ commands
  rw [Walk.rewind, valueSizes, ages] at turns
  exact ⟨rewound, done, turns⟩

/-- With `2 ^ 62` keys in each of four spaces, every 64-bit word is a coordinate. -/
theorem walks_cyclic_full_width : ∃ shape,
    Shape.setup true 11 4 2 (2 ^ 62) 7 = .ok shape ∧ Cyclic shape := by
  have accepted : Shape.setup true 11 (4 : UInt64).toNat (2 : UInt64).toNat
      (0x4000000000000000 : UInt64).toNat 7 =
    .ok ⟨true, 11, 4, 2, 2 ^ 62, 64, shuffled (7 ^^^ UInt64.ofNat 11 * goldenFraction)⟩ := rfl
  exact ⟨_, accepted, walks_cyclic accepted⟩

/-- A key of two bytes and the largest value size that a word holds add up to more than a word. -/
theorem pair_outgrows_word : ∃ shape,
    Shape.setup false 2 (1 : UInt64).toNat (1 : UInt64).toNat (1 : UInt64).toNat 0 = .ok shape ∧
      0 < shape.spaces ∧ 2 ^ 64 - 1 < wordLimit ∧
      Walk.new shape 0 0 (2 ^ 64 - 1) 0 = .error (.panic .overflow) ∧
      Generator.new shape 0 0 (2 ^ 64 - 1) 0 = .error (.panic .overflow) := by
  have accepted : Shape.setup false 2 (1 : UInt64).toNat (1 : UInt64).toNat (1 : UInt64).toNat 0 =
    .ok ⟨false, 2, 1, 1, 1, 16, shuffled (0 ^^^ UInt64.ofNat 2 * goldenFraction)⟩ := rfl
  refine ⟨_, accepted, by decide, by decide, ?_, ?_⟩
  · rfl
  · rfl

end StoreBench.Keys
