import StoreBench.Proofs.Keys.Rounds

/-! A pool is a window of its walk's stream.

A pool keeps a list of the pairs that were not pulled yet.  The pool of a generator keeps a flat
buffer of slots and a cursor: filling it overwrites all slots in place, and pulling cuts the next
one out.  Both hand out what the walk was about to give when the pool was filled, whatever becomes
of the walk after that.
-/

namespace StoreBench.Keys

theorem Shape.Sound.keySize_pos {shape : Shape} (sound : shape.Sound) : 0 < shape.keySize := by
  refine Nat.pos_of_ne_zero fun none => ?_
  have head : symbolsFor shape.printable shape.bits = 0 := Nat.le_zero.mp (none ▸ sound.long)
  have narrow := shape.bits_le_head
  rw [head, Nat.mul_zero] at narrow
  have wide := sound.bits_le.1
  omega

namespace Walk

/-- The next pairs with their values, asked for one by one. -/
def gets (walk : Walk) (count : Nat) : List Pair × Walk :=
  walk.draws (List.replicate count (.get false))

theorem gets_succ (walk : Walk) (count : Nat) : walk.gets (count + 1) =
    (walk.next.1 :: (walk.advance.gets count).1, (walk.advance.gets count).2) := by
  rw [gets, List.replicate_succ, draws_cons]
  rfl

theorem gets_eq_take (walk : Walk) (count : Nat) : walk.gets count = walk.take count := by
  induction count generalizing walk with
  | zero => rfl
  | succ count ih =>
      rw [gets_succ, ih]
      rfl

theorem gets_walk {walk : Walk} (early : walk.serial < walk.shape.period) (count : Nat) :
    (walk.gets count).2 = walk.forward count := by
  rw [gets, draws_eq early, List.length_replicate]

theorem length_gets (walk : Walk) (count : Nat) : (walk.gets count).1.length = count := by
  induction count generalizing walk with
  | zero => rfl
  | succ count ih => rw [gets_succ, List.length_cons, ih]

end Walk

theorem Generator.Represents.gets {generator : Generator} {walk : Walk}
    (represents : generator.Represents walk) (regular : walk.Regular) (count : Nat) :
    ∃ after, generator.obey? (List.replicate count (.draw (.get false))) =
        some ((walk.gets count).1, after) ∧ after.Represents (walk.gets count).2 := by
  have asked : List.replicate count (Command.draw (.get false)) =
      (List.replicate count (.get false)).map .draw := by
    rw [List.map_replicate]
  have suits : ∀ command ∈ List.replicate count (Command.draw (.get false)),
      command.Suits walk.shape.keySize walk.valueSize := by
    intro command member
    rw [List.eq_of_mem_replicate member]
    exact trivial
  have obeyed := represents.obey regular suits
  rw [asked, walk.obey_draws] at obeyed
  rw [asked]
  exact obeyed

/-- What is done with a pool and the walk it is filled from. -/
inductive Move where
  | pull
  | fill
  | tell (command : Command)

def Move.Suits (keySize valueSize : Nat) : Move → Prop
  | .pull => True
  | .fill => True
  | .tell command => command.Suits keySize valueSize

/-- A pull has an answer. -/
def Pool.move (pool : Pool) (walk : Walk) : Move → List (Option Pair) × Pool × Walk
  | .pull => ([pool.pull.1], pool.pull.2, walk)
  | .fill => ([], pool.fill walk)
  | .tell command => ([], pool, (walk.obey [command]).2)

def Pool.play (pool : Pool) (walk : Walk) : List Move → List (Option Pair) × Pool × Walk
  | [] => ([], pool, walk)
  | move :: moves =>
    let (answers, pool, walk) := pool.move walk move
    let (later, final) := pool.play walk moves
    (answers ++ later, final)

/-- The stream of a walk, as far as a pool of some size shows it: the walk as it was when the pool
was filled, how often the pool was pulled since, and the walk as it is now. -/
structure Window where
  size : Nat
  source : Walk
  pulled : Nat
  walk : Walk

namespace Window

/-- The window of a pool that was just filled. -/
def opened (size : Nat) (walk : Walk) : Window :=
  ⟨size, walk, 0, (walk.gets size).2⟩

def answers (window : Window) : Move → List (Option Pair)
  | .pull => [(window.source.gets window.size).1[window.pulled]?]
  | .fill => []
  | .tell _ => []

def move (window : Window) : Move → Window
  | .pull => { window with pulled := window.pulled + 1 }
  | .fill => opened window.size window.walk
  | .tell command => { window with walk := (window.walk.obey [command]).2 }

def play (window : Window) : List Move → List (Option Pair) × Window
  | [] => ([], window)
  | move :: moves =>
    let (later, final) := (window.move move).play moves
    (window.answers move ++ later, final)

theorem play_size (window : Window) (moves : List Move) :
    (window.play moves).2.size = window.size := by
  induction moves generalizing window with
  | nil => rfl
  | cons move moves ih =>
      have kept : (window.move move).size = window.size := by
        cases move with
        | pull => rfl
        | fill => rfl
        | tell command => rfl
      exact (ih (window.move move)).trans kept

end Window

namespace Pool

theorem pull_eq (pool : Pool) :
    pool.pull = (pool.pairs.head?, { pool with pairs := pool.pairs.tail }) := by
  obtain ⟨size, pairs⟩ := pool
  cases pairs with
  | nil => rfl
  | cons pair pairs => rfl

theorem fill_eq (pool : Pool) (walk : Walk) :
    pool.fill walk = (⟨pool.size, (walk.gets pool.size).1⟩, (walk.gets pool.size).2) := by
  rw [fill, ← walk.gets_eq_take]

/-- What is left in the pool is what the window has not passed. -/
structure Shows (pool : Pool) (walk : Walk) (window : Window) : Prop where
  size : pool.size = window.size
  pairs : pool.pairs = (window.source.gets window.size).1.drop window.pulled
  walk : walk = window.walk

theorem fill_shows (pool : Pool) (walk : Walk) :
    (pool.fill walk).1.Shows (pool.fill walk).2 (.opened pool.size walk) := by
  rw [fill_eq]
  exact ⟨rfl, rfl, rfl⟩

variable {pool : Pool} {walk : Walk} {window : Window}

theorem Shows.move (shows : pool.Shows walk window) (move : Move) :
    (pool.move walk move).1 = window.answers move ∧
      (pool.move walk move).2.1.Shows (pool.move walk move).2.2 (window.move move) := by
  cases move with
  | pull =>
      rw [Pool.move, pull_eq, shows.pairs, List.head?_drop, List.tail_drop]
      exact ⟨rfl, shows.size, rfl, shows.walk⟩
  | fill =>
      have filled := pool.fill_shows walk
      rw [shows.size, shows.walk] at filled
      rw [Pool.move, shows.walk]
      exact ⟨rfl, filled⟩
  | tell command =>
      rw [Pool.move, shows.walk]
      exact ⟨rfl, shows.size, shows.pairs, rfl⟩

theorem Shows.play (shows : pool.Shows walk window) (moves : List Move) :
    (pool.play walk moves).1 = (window.play moves).1 ∧
      (pool.play walk moves).2.1.Shows (pool.play walk moves).2.2 (window.play moves).2 := by
  induction moves generalizing pool walk window with
  | nil => exact ⟨rfl, shows⟩
  | cons move moves ih =>
      obtain ⟨answered, moved⟩ := shows.move move
      obtain ⟨later, ended⟩ := ih moved
      exact ⟨congrArg₂ (· ++ ·) answered later, ended⟩

/-- The pairs ahead in the window come one after the other, and then nothing. -/
theorem Shows.pulls (shows : pool.Shows walk window) (count : Nat) :
    (pool.pulls count).1 = (List.range count).map fun index =>
      (window.source.gets window.size).1[window.pulled + index]? := by
  induction count generalizing pool window with
  | zero => rfl
  | succ count ih =>
      obtain ⟨answered, moved⟩ := shows.move .pull
      have rest : (pool.pull.2.pulls count).1 = _ := ih moved
      have first : pool.pull.1 = _ := (List.cons.inj answered).1
      rw [pulls, List.range_succ_eq_map, List.map_cons, List.map_map]
      refine congrArg₂ List.cons first (rest.trans (List.map_congr_left fun index _ => ?_))
      rw [Window.move, Function.comp_apply, Nat.succ_eq_add_one, Nat.add_assoc, Nat.add_comm 1]

end Pool

/-- A pool as one buffer of slots, with a cursor at the slot to be pulled next. -/
structure Slots where
  keySize : Nat
  valueSize : Nat
  size : Nat
  cursor : Nat
  buffer : Bytes

namespace Slots

def stride (slots : Slots) : Nat :=
  slots.keySize + slots.valueSize

/-- Overwrites so many slots, one after the other and each in its place. -/
def refill? (keySize stride : Nat) : Nat → Bytes → Generator → Option (Bytes × Generator)
  | 0, rest, generator => some (rest, generator)
  | count + 1, buffer, generator => do
    let slot := buffer.take stride
    let (pair, generator) ← generator.into? (slot.take keySize) (slot.drop keySize)
    let (rest, generator) ← refill? keySize stride count (buffer.drop stride) generator
    some (pair.key ++ pair.value ++ rest, generator)

/-- The generator must be of the sizes that the slots were made for. -/
def fill? (slots : Slots) (generator : Generator) : Option (Slots × Generator) := do
  if generator.shape.keySize ≠ slots.keySize ∨ generator.valueSize ≠ slots.valueSize then none
  else if slots.stride = 0 then some ({ slots with cursor := 0 }, generator)
  else
    let (buffer, generator) ← refill? slots.keySize slots.stride
      (slots.buffer.length / slots.stride) slots.buffer generator
    some ({ slots with cursor := 0, buffer }, generator)

def new? (generator : Generator) (size : Nat) : Option (Slots × Generator) :=
  let bytes := size * (generator.shape.keySize + generator.valueSize)
  if wordLimit / 2 ≤ bytes then none
  else
    fill?
      { keySize := generator.shape.keySize, valueSize := generator.valueSize, size, cursor := 0
        buffer := List.replicate bytes 0 }
      generator

/-- The slot at the cursor must end in a word's reach and in the buffer. -/
def pull? (slots : Slots) : Option (Option Pair × Slots) :=
  if slots.size ≤ slots.cursor then some (none, slots)
  else if wordLimit ≤ (slots.cursor + 1) * slots.stride then none
  else if slots.buffer.length < (slots.cursor + 1) * slots.stride then none
  else
    let slot := (slots.buffer.drop (slots.cursor * slots.stride)).take slots.stride
    some (some ⟨slot.take slots.keySize, slot.drop slots.keySize⟩,
      { slots with cursor := slots.cursor + 1 })

def move? (slots : Slots) (generator : Generator) :
    Move → Option (List (Option Pair) × Slots × Generator)
  | .pull => do
    let (answer, slots) ← slots.pull?
    some ([answer], slots, generator)
  | .fill => do
    let filled ← slots.fill? generator
    some ([], filled)
  | .tell command => do
    let (_, generator) ← generator.obey? [command]
    some ([], slots, generator)

def play? (slots : Slots) (generator : Generator) :
    List Move → Option (List (Option Pair) × Slots × Generator)
  | [] => some ([], slots, generator)
  | move :: moves => do
    let (answers, slots, generator) ← slots.move? generator move
    let (later, final) ← slots.play? generator moves
    some (answers ++ later, final)

/-- Pairs in their slots. -/
def packed (pairs : List Pair) : Bytes :=
  pairs.flatMap fun pair => pair.key ++ pair.value

/-- All pairs are of the same sizes. -/
def Uniform (keySize valueSize : Nat) (pairs : List Pair) : Prop :=
  ∀ pair ∈ pairs, pair.key.length = keySize ∧ pair.value.length = valueSize

section Packed

variable {keySize valueSize : Nat} {pairs : List Pair}

theorem length_packed (uniform : Uniform keySize valueSize pairs) :
    (packed pairs).length = pairs.length * (keySize + valueSize) := by
  induction pairs with
  | nil => rw [List.length_nil, Nat.zero_mul]; rfl
  | cons pair pairs ih =>
      obtain ⟨sizes, later⟩ := List.forall_mem_cons.mp uniform
      rw [packed, List.flatMap_cons, List.length_append, List.length_append, sizes.1, sizes.2,
        List.length_cons, Nat.succ_mul, ← ih later, Nat.add_comm]
      rfl

theorem drop_packed (uniform : Uniform keySize valueSize pairs) (index : Nat) :
    (packed pairs).drop (index * (keySize + valueSize)) = packed (pairs.drop index) := by
  induction index generalizing pairs with
  | zero => rw [Nat.zero_mul, List.drop_zero, List.drop_zero]
  | succ index ih =>
      cases pairs with
      | nil => rw [List.drop_nil]; exact List.drop_nil
      | cons pair pairs =>
          obtain ⟨sizes, later⟩ := List.forall_mem_cons.mp uniform
          have slot : (pair.key ++ pair.value).length = keySize + valueSize := by
            rw [List.length_append, sizes.1, sizes.2]
          rw [packed, List.flatMap_cons, Nat.succ_mul, Nat.add_comm, ← slot,
            List.drop_length_add_append, slot, List.drop_succ_cons]
          exact ih later

theorem slot_packed (uniform : Uniform keySize valueSize pairs) {index : Nat} {pair : Pair}
    (held : pairs[index]? = some pair) :
    ((packed pairs).drop (index * (keySize + valueSize))).take (keySize + valueSize) =
        pair.key ++ pair.value ∧ pair.key.length = keySize := by
  obtain ⟨inside, rfl⟩ := List.getElem?_eq_some_iff.mp held
  obtain ⟨key, value⟩ := uniform _ (List.getElem_mem inside)
  have slot : (pairs[index].key ++ pairs[index].value).length = keySize + valueSize := by
    rw [List.length_append, key, value]
  rw [drop_packed uniform, List.drop_eq_getElem_cons inside, packed, List.flatMap_cons, ← slot,
    List.take_left]
  exact ⟨rfl, key⟩

end Packed

theorem uniform_gets {walk : Walk} (regular : walk.Regular) (count : Nat) :
    Uniform walk.shape.keySize walk.valueSize (walk.gets count).1 := by
  intro pair member
  rw [walk.gets_eq_take, Walk.take_eq regular.early] at member
  obtain ⟨steps, _, rfl⟩ := List.mem_map.mp member
  exact ⟨Shape.length_keyAt regular.sound _, walk.shape.length_fill _ _⟩

theorem refill?_eq {generator : Generator} {walk : Walk} (represents : generator.Represents walk)
    (regular : walk.Regular) {count : Nat} {buffer : Bytes}
    (size : buffer.length = count * (walk.shape.keySize + walk.valueSize)) :
    ∃ next, refill? walk.shape.keySize (walk.shape.keySize + walk.valueSize) count buffer
        generator = some (packed (walk.gets count).1, next) ∧
      next.Represents (walk.gets count).2 := by
  induction count generalizing generator walk buffer with
  | zero =>
      rw [Nat.zero_mul] at size
      rw [List.length_eq_zero_iff.mp size]
      exact ⟨generator, rfl, represents⟩
  | succ count ih =>
      have slot : (buffer.take (walk.shape.keySize + walk.valueSize)).length =
          walk.shape.keySize + walk.valueSize := by
        rw [List.length_take, size, Nat.succ_mul]
        omega
      -- The first slot is overwritten in place, and the others from one step on.
      obtain ⟨mid, drawn, follows⟩ := @Generator.Represents.into generator walk represents regular
        ((buffer.take (walk.shape.keySize + walk.valueSize)).take walk.shape.keySize)
        ((buffer.take (walk.shape.keySize + walk.valueSize)).drop walk.shape.keySize)
        (by rw [List.length_take, slot]; omega) (by rw [List.length_drop, slot]; omega)
      obtain ⟨next, filled, ends⟩ := @ih mid walk.advance follows regular.advance
        (buffer.drop (walk.shape.keySize + walk.valueSize)) (by
          rw [List.length_drop, size, Nat.succ_mul, Nat.add_sub_cancel]
          rfl)
      rw [Walk.gets_succ]
      refine ⟨next, ?_, ends⟩
      have rest : refill? walk.shape.keySize (walk.shape.keySize + walk.valueSize) count
        (buffer.drop (walk.shape.keySize + walk.valueSize)) mid = _ := filled
      simp only [refill?, drawn, rest, Option.bind_eq_bind, Option.bind_some, packed,
        List.flatMap_cons]

end Slots

/-- The words of a generator can follow the walks of the window, and the window fits a buffer. -/
structure Window.Regular (window : Window) : Prop where
  source : window.source.Regular
  walk : window.walk.Regular
  shape : window.walk.shape = window.source.shape
  valueSize : window.walk.valueSize = window.source.valueSize
  small : window.size * (window.source.shape.keySize + window.source.valueSize) < wordLimit

namespace Window.Regular

variable {window : Window}

theorem opened {walk : Walk} {size : Nat} (regular : walk.Regular)
    (small : size * (walk.shape.keySize + walk.valueSize) < wordLimit) :
    (Window.opened size walk).Regular := by
  have ahead := Walk.gets_walk regular.early size
  refine { source := regular, walk := ?_, shape := ?_, valueSize := ?_, small := small }
  · rw [Window.opened, ahead]
    exact ⟨regular.sound, regular.period, regular.inside, Nat.mod_lt _ regular.sound.keys⟩
  · rw [Window.opened, ahead]
    rfl
  · rw [Window.opened, ahead]
    rfl

theorem move (regular : window.Regular) (move : Move) : (window.move move).Regular := by
  cases move with
  | pull => exact { regular with }
  | fill =>
      refine .opened regular.walk ?_
      rw [regular.shape, regular.valueSize]
      exact regular.small
  | tell command =>
      cases command with
      | rewind start => exact { regular with walk := regular.walk.rewind start.toNat }
      | draw way =>
          have told : (window.walk.obey [.draw way]).2 = window.walk.advance :=
            window.walk.draw_walk way
          rw [Window.move, told]
          exact { regular with walk := regular.walk.advance }

/-- Filling takes the sizes from the walk, and they are the same as before. -/
theorem move_sizes (regular : window.Regular) (move : Move) :
    (window.move move).source.shape = window.source.shape ∧
      (window.move move).source.valueSize = window.source.valueSize := by
  cases move with
  | pull => exact ⟨rfl, rfl⟩
  | fill => exact ⟨regular.shape, regular.valueSize⟩
  | tell command => exact ⟨rfl, rfl⟩

end Window.Regular

namespace Slots

/-- The buffer holds all that the window shows, and the cursor stops at its end. -/
structure Represents (slots : Slots) (generator : Generator) (window : Window) : Prop where
  keySize : slots.keySize = window.source.shape.keySize
  valueSize : slots.valueSize = window.source.valueSize
  size : slots.size = window.size
  cursor : slots.cursor = min window.pulled window.size
  buffer : slots.buffer = packed (window.source.gets window.size).1
  generator : generator.Represents window.walk

theorem fill?_represents {slots : Slots} {generator : Generator} {walk : Walk} {size : Nat}
    (slotted : slots.keySize = walk.shape.keySize) (valued : slots.valueSize = walk.valueSize)
    (sized : slots.size = size)
    (length : slots.buffer.length = size * (walk.shape.keySize + walk.valueSize))
    (follows : generator.Represents walk) (regular : walk.Regular) :
    ∃ filled after, slots.fill? generator = some (filled, after) ∧
      filled.Represents after (.opened size walk) := by
  have wide : slots.stride = walk.shape.keySize + walk.valueSize := by
    rw [stride, slotted, valued]
  have positive := regular.sound.keySize_pos
  have suits : ¬ (generator.shape.keySize ≠ slots.keySize ∨
      generator.valueSize ≠ slots.valueSize) := by
    rw [follows.shape, follows.valueSize, slotted, valued]
    exact not_or.mpr ⟨not_not.mpr rfl, not_not.mpr rfl⟩
  have count : slots.buffer.length / slots.stride = size := by
    rw [length, wide, Nat.mul_div_cancel _ (Nat.add_pos_left positive _)]
  obtain ⟨after, refilled, ends⟩ := refill?_eq follows regular length
  refine ⟨{ slots with cursor := 0, buffer := packed (walk.gets size).1 }, after, ?_, ?_⟩
  · rw [fill?, if_neg suits, if_neg (by omega), count, wide, slotted, refilled]
    rfl
  · exact
      { keySize := slotted
        valueSize := valued
        size := sized
        cursor := (Nat.zero_min _).symm
        buffer := rfl
        generator := ends }

namespace Represents

variable {slots : Slots} {generator : Generator} {window : Window}

theorem pull (represents : slots.Represents generator window) (regular : window.Regular) :
    ∃ next, slots.pull? =
        some ((window.source.gets window.size).1[window.pulled]?, next) ∧
      next.Represents generator (window.move .pull) := by
  have uniform := uniform_gets regular.source window.size
  have many := window.source.length_gets window.size
  have wide : slots.stride = window.source.shape.keySize + window.source.valueSize := by
    rw [stride, represents.keySize, represents.valueSize]
  rcases Nat.lt_or_ge window.pulled window.size with early | late
  · have cursor : slots.cursor = window.pulled := by
      rw [represents.cursor, Nat.min_eq_left (Nat.le_of_lt early)]
    obtain ⟨pair, held⟩ : ∃ pair, (window.source.gets window.size).1[window.pulled]? = some pair :=
      ⟨_, List.getElem?_eq_getElem (many.symm ▸ early)⟩
    obtain ⟨slot, key⟩ := slot_packed uniform held
    rw [← represents.buffer, ← cursor, ← wide] at slot
    -- The slot ends where the buffer ends, or before it, and so within a word.
    have within : (window.pulled + 1) * slots.stride ≤ window.size * slots.stride :=
      Nat.mul_le_mul_right _ early
    have small := regular.small
    rw [← wide] at small
    have length : slots.buffer.length = window.size * slots.stride := by
      rw [represents.buffer, length_packed uniform, many, wide]
    refine ⟨{ slots with cursor := slots.cursor + 1 }, ?_, { represents with cursor := ?_ }⟩
    · rw [pull?, if_neg (by rw [represents.size, cursor]; omega), if_neg (by rw [cursor]; omega),
        if_neg (by rw [length, cursor]; omega), held]
      simp only [slot, represents.keySize, ← key, List.take_left, List.drop_left]
    · rw [Window.move]
      dsimp only
      omega
  · refine ⟨slots, ?_, { represents with cursor := ?_ }⟩
    · rw [pull?, if_pos (by rw [represents.size, represents.cursor]; omega),
        List.getElem?_eq_none (by omega)]
    · rw [represents.cursor, Window.move]
      dsimp only
      omega

theorem move (represents : slots.Represents generator window) (regular : window.Regular)
    {move : Move}
    (suits : move.Suits window.source.shape.keySize window.source.valueSize) :
    ∃ next after, slots.move? generator move = some (window.answers move, next, after) ∧
      next.Represents after (window.move move) := by
  cases move with
  | pull =>
      obtain ⟨next, pulled, shows⟩ := represents.pull regular
      refine ⟨next, generator, ?_, shows⟩
      simp only [move?, pulled, Option.bind_eq_bind, Option.bind_some]
      rfl
  | fill =>
      have length : slots.buffer.length =
          window.size * (window.walk.shape.keySize + window.walk.valueSize) := by
        rw [represents.buffer, length_packed (uniform_gets regular.source _), Walk.length_gets,
          regular.shape, regular.valueSize]
      obtain ⟨next, after, filled, shows⟩ := fill?_represents
        (represents.keySize.trans (congrArg Shape.keySize regular.shape.symm))
        (represents.valueSize.trans regular.valueSize.symm)
        represents.size length represents.generator regular.walk
      refine ⟨next, after, ?_, shows⟩
      simp only [move?, filled, Option.bind_eq_bind, Option.bind_some]
      rfl
  | tell command =>
      obtain ⟨after, obeyed, follows⟩ := @Generator.Represents.obey generator window.walk
        represents.generator regular.walk [command] (by
          rw [regular.shape, regular.valueSize]
          exact List.forall_mem_singleton.mpr suits)
      refine ⟨slots, after, ?_, { represents with generator := follows }⟩
      simp only [move?, obeyed, Option.bind_eq_bind, Option.bind_some]
      rfl

theorem play (represents : slots.Represents generator window) (regular : window.Regular)
    {moves : List Move}
    (suits : ∀ move ∈ moves, move.Suits window.source.shape.keySize window.source.valueSize) :
    ∃ final last, slots.play? generator moves = some ((window.play moves).1, final, last) ∧
      final.Represents last (window.play moves).2 := by
  induction moves generalizing slots generator window with
  | nil => exact ⟨slots, generator, rfl, represents⟩
  | cons move moves ih =>
      obtain ⟨suitable, later⟩ := List.forall_mem_cons.mp suits
      obtain ⟨next, after, moved, shows⟩ := represents.move regular suitable
      obtain ⟨shape, valueSize⟩ := regular.move_sizes move
      obtain ⟨final, last, played, ends⟩ := ih shows (regular.move move) (by
        rw [shape, valueSize]
        exact later)
      refine ⟨final, last, ?_, ends⟩
      simp only [play?, moved, played, Option.bind_eq_bind, Option.bind_some]
      rfl

end Represents

theorem new?_represents {generator : Generator} {walk : Walk} {size : Nat}
    (represents : generator.Represents walk) (regular : walk.Regular)
    (small : size * (walk.shape.keySize + walk.valueSize) < wordLimit / 2) :
    ∃ slots filled, new? generator size = some (slots, filled) ∧
      slots.Represents filled (.opened size walk) := by
  rw [new?, represents.shape, represents.valueSize, if_neg (Nat.not_le.mpr small)]
  exact fill?_represents rfl rfl rfl List.length_replicate represents regular

end Slots

/-- The pool answers with these pairs, in order and once each, and then with none. -/
def Pool.Holds (pool : Pool) (pairs : List Pair) : Prop :=
  ∀ count, (pool.pulls count).1 = (List.range count).map fun index => pairs[index]?

theorem Pool.Shows.holds {pool : Pool} {walk source : Walk} {size : Nat}
    (shows : pool.Shows walk (.opened size source)) : pool.Holds (source.gets size).1 := by
  intro count
  rw [shows.pulls]
  refine List.map_congr_left fun index _ => ?_
  rw [Window.opened, Nat.zero_add]

/-- The pools over the walks of a shape, and their slots in a buffer, are windows.  Whatever is left
in a pool, filling it discards. -/
structure Windowed (shape : Shape) : Prop where
  made : ∀ space walk size, Walk.Over shape space walk →
    size * (shape.keySize + walk.valueSize) < wordLimit / 2 →
    ∃ pool, Pool.new walk size = .ok (pool, (walk.gets size).2) ∧
      pool.Holds (walk.gets size).1 ∧ (walk.gets size).1.length = size
  played : ∀ space walk size pool after moves, Walk.Over shape space walk →
    Pool.new walk size = .ok (pool, after) →
    (pool.play after moves).1 = ((Window.opened size walk).play moves).1 ∧
      (pool.play after moves).2.2 = ((Window.opened size walk).play moves).2.walk
  refilled : ∀ space walk size pool after moves left later, Walk.Over shape space walk →
    Pool.new walk size = .ok (pool, after) → (pool.play after moves).2 = (left, later) →
    (left.fill later).2 = (later.gets size).2 ∧ (left.fill later).1.Holds (later.gets size).1
  slots : ∀ space walk generator size, Walk.Over shape space walk → generator.Represents walk →
    size * (shape.keySize + walk.valueSize) < wordLimit / 2 →
    (∃ after, generator.obey? (List.replicate size (.draw (.get false))) =
        some ((walk.gets size).1, after) ∧ after.Represents (walk.gets size).2) ∧
      ∃ slots filled, Slots.new? generator size = some (slots, filled) ∧
        ∀ moves : List Move, (∀ move ∈ moves, move.Suits shape.keySize walk.valueSize) →
          ∃ final last, slots.play? filled moves =
              some (((Window.opened size walk).play moves).1, final, last) ∧
            last.Represents ((Window.opened size walk).play moves).2.walk

theorem Pool.new_shows {walk after : Walk} {size : Nat} {pool : Pool}
    (made : Pool.new walk size = .ok (pool, after)) :
    pool.Shows after (.opened size walk) := by
  unfold Pool.new at made
  dsimp only at made
  split at made
  · cases made
  split at made
  · cases made
  cases made
  exact Pool.fill_shows ⟨size, []⟩ walk

theorem pools_windowed {printable : Bool} {keySize : Nat} {spaces sectors period seed : UInt64}
    {shape : Shape}
    (accepted : Shape.setup printable keySize spaces.toNat sectors.toNat period.toNat seed =
      .ok shape) : Windowed shape := by
  obtain ⟨sound, word⟩ := Shape.setup_word accepted
  refine
    { made := fun space walk size belongs small => ?_
      played := fun space walk size pool after moves belongs made => ?_
      refilled := fun space walk size pool after moves left later belongs made reached => ?_
      slots := fun space walk generator size belongs represents small => ?_ }
  · obtain ⟨rfl, _⟩ := belongs.inside sound.keys
    have made := Pool.new_ok small
    rw [Pool.fill_eq] at made
    exact ⟨_, made, (Pool.new_shows made).holds, walk.length_gets size⟩
  · obtain ⟨answers, shows⟩ := (Pool.new_shows made).play moves
    exact ⟨answers, shows.walk⟩
  · obtain ⟨_, shows⟩ := (Pool.new_shows made).play moves
    rw [reached] at shows
    have sized : left.size = size := shows.size.trans (Window.play_size _ moves)
    have filled := left.fill_shows later
    rw [sized] at filled
    exact ⟨filled.walk, filled.holds⟩
  · have regular := belongs.regular sound word
    obtain ⟨rfl, _⟩ := belongs.inside sound.keys
    obtain ⟨after, obeyed, follows⟩ := represents.gets regular size
    obtain ⟨slots, filled, made, shows⟩ := Slots.new?_represents represents regular small
    refine ⟨⟨after, obeyed, follows⟩, slots, filled, made, fun moves suits => ?_⟩
    obtain ⟨final, last, played, ends⟩ := shows.play (.opened regular (lt_wordLimit small)) suits
    exact ⟨final, last, played, ends.generator⟩

/-- A pool that is larger than the period, filled from the last of three keys on. -/
theorem pools_windowed_around_end : ∃ shape,
    Shape.setup false 2 1 1 3 0 = .ok shape ∧ Windowed shape ∧
      Walk.new shape 0 2 0 0 = .ok ⟨shape, 0, 2, 0, 0⟩ ∧
      ∃ pool, Pool.new ⟨shape, 0, 2, 0, 0⟩ 4 = .ok (pool, ⟨shape, 0, 0, 0, 0⟩) ∧
        pool.Holds ([2, 0, 1, 2].map fun serial => shape.pairAt serial 0 0) := by
  have accepted : Shape.setup false 2 (1 : UInt64).toNat (1 : UInt64).toNat (3 : UInt64).toNat 0 =
    .ok ⟨false, 2, 1, 1, 3, 16, shuffled (0 ^^^ UInt64.ofNat 2 * goldenFraction)⟩ := rfl
  have windowed := pools_windowed accepted
  obtain ⟨pool, made, holds, _⟩ := windowed.made 0 _ 4
    (.new (show Walk.new _ 0 2 0 0 = .ok ⟨_, 0, 2, 0, 0⟩ from rfl)) (by decide)
  exact ⟨_, accepted, windowed, rfl, pool, made, holds⟩

/-- A buffer of `2 ^ 63` bytes has a size that fits a word, but there is no such buffer. -/
theorem pool_outgrows_memory : ∃ shape walk,
    Shape.setup false 8 (1 : UInt64).toNat (1 : UInt64).toNat (3 : UInt64).toNat 0 = .ok shape ∧
      Walk.new shape 0 0 0 0 = .ok walk ∧
      2 ^ 60 * (shape.keySize + walk.valueSize) < wordLimit ∧
      Pool.new walk (2 ^ 60) = .error .allocation := by
  have accepted : Shape.setup false 8 (1 : UInt64).toNat (1 : UInt64).toNat (3 : UInt64).toNat 0 =
    .ok ⟨false, 8, 1, 1, 3, 16, shuffled (0 ^^^ UInt64.ofNat 8 * goldenFraction)⟩ := rfl
  refine ⟨_, ⟨_, 0, 0, 0, 0⟩, accepted, rfl, by decide, ?_⟩
  rw [Pool.new, if_neg (by decide), if_pos (by decide)]

end StoreBench.Keys
