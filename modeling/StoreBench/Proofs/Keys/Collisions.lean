import Mathlib.Data.Set.Lattice
import Mathlib.Order.CompletePartialOrder
import StoreBench.Keys.Pool
import StoreBench.Proofs.Keys.Mixing

/-! Keys never collide.

The head of a key spells the mixed coordinate in full, also where the symbols do not divide its
width, so a key tells its coordinate.  This does not depend on the walk that the key came from, nor
on the way in which the walk gave it out.
-/

namespace StoreBench.Keys

theorem alphabet_injective : Function.Injective alphabet.get :=
  get_injective (by decide +kernel)

namespace Shape

variable (shape : Shape)

theorem symbol_eq {left right : UInt64} (same : shape.symbol left = shape.symbol right) :
    left.toNat % 2 ^ symbolBits shape.printable = right.toNat % 2 ^ symbolBits shape.printable := by
  unfold symbol at same
  unfold symbolBits
  split
  · next printable =>
      rw [if_pos printable, if_pos printable] at same
      exact congrArg Fin.val (alphabet_injective same)
  · next binary =>
      rw [if_neg binary, if_neg binary] at same
      have equal := congrArg UInt8.toNat same
      rw [UInt64.toNat_toUInt8, UInt64.toNat_toUInt8] at equal
      exact equal

theorem symbolBits_lt : symbolBits shape.printable < 64 := by
  unfold symbolBits
  split <;> decide

theorem spell_eq {left right : UInt64} {count : Nat}
    (same : shape.spell left count = shape.spell right count) :
    left.toNat % 2 ^ (symbolBits shape.printable * count) =
      right.toNat % 2 ^ (symbolBits shape.printable * count) := by
  induction count generalizing left right with
  | zero => rw [Nat.mul_zero, Nat.pow_zero, Nat.mod_one, Nat.mod_one]
  | succ count ih =>
      obtain ⟨symbol, rest⟩ := List.cons.inj same
      have low := shape.symbol_eq symbol
      have high := ih rest
      have small := shape.symbolBits_lt
      simp only [UInt64.toNat_shiftRight, UInt64.toNat_ofNat', Nat.shiftRight_eq_div_pow] at high
      rw [Nat.mod_eq_of_lt (Nat.lt_trans small (by decide)), Nat.mod_eq_of_lt small] at high
      rw [Nat.mul_succ, Nat.add_comm, Nat.pow_add, Nat.mod_mul, Nat.mod_mul, low, high]

theorem length_spell (word : UInt64) (count : Nat) :
    (shape.spell word count).length = count := by
  induction count generalizing word with
  | zero => rfl
  | succ count ih => rw [spell, List.length_cons, ih]

theorem bits_le_head :
    shape.bits ≤ symbolBits shape.printable * symbolsFor shape.printable shape.bits := by
  unfold symbolsFor symbolBits
  split <;> omega

theorem keyAt_fst (point : Nat) :
    (shape.keyAt point).1 =
      shape.spell (shape.mix (UInt64.ofNat point)) (symbolsFor shape.printable shape.bits) ++
        (shape.fill (shape.mix (UInt64.ofNat point))
          (shape.keySize - symbolsFor shape.printable shape.bits)).1 := rfl

theorem length_fill (word : UInt64) (count : Nat) :
    (shape.fill word count).1.length = count := by
  induction count using Nat.strongRecOn generalizing word with
  | ind count ih =>
      rw [fill]
      split
      · next none =>
          rw [none]
          rfl
      · next some =>
          have positive := shape.symbolsPerWord_pos
          dsimp only
          rw [List.length_append, length_spell, ih _ (by omega)]
          omega

/-- A key has at least the symbols that spell its coordinate. -/
def keyLength (shape : Shape) : Nat :=
  max shape.keySize (symbolsFor shape.printable shape.bits)

theorem Sound.keyLength_eq {shape : Shape} (sound : shape.Sound) :
    shape.keyLength = shape.keySize :=
  Nat.max_eq_left sound.long

theorem length_key (point : Nat) : (shape.keyAt point).1.length = shape.keyLength := by
  rw [keyAt_fst, List.length_append, length_spell, length_fill, keyLength]
  omega

theorem length_keyAt {shape : Shape} (sound : shape.Sound) (point : Nat) :
    (shape.keyAt point).1.length = shape.keySize := by
  rw [length_key, sound.keyLength_eq]

theorem pairAt_key (point size : Nat) (age : UInt64) :
    (shape.pairAt point size age).key = (shape.keyAt point).1 := rfl

theorem volume_pair (point size : Nat) (age : UInt64) :
    (shape.pairAt point size age).volume = shape.keyLength + size := by
  have value : (shape.pairAt point size age).value.length = size := shape.length_fill _ size
  rw [Pair.volume, pairAt_key, length_key, value]

theorem volume_pairAt {shape : Shape} (sound : shape.Sound) (point size : Nat) (age : UInt64) :
    (shape.pairAt point size age).volume = shape.keySize + size := by
  rw [volume_pair, sound.keyLength_eq]

namespace Sound

variable {shape : Shape}

/-- A coordinate fits the shape's width. -/
theorem narrow_point (sound : shape.Sound) {point : Nat}
    (small : point < shape.period * shape.spaces) :
    (UInt64.ofNat point).toNat = point ∧ Narrow shape.bits (UInt64.ofNat point) := by
  have within : 2 ^ shape.bits ≤ 2 ^ 64 := Nat.pow_le_pow_right (by decide) sound.bits_le.2
  have below := Nat.lt_of_lt_of_le small sound.domain
  have whole : (UInt64.ofNat point).toNat = point := by
    rw [UInt64.toNat_ofNat', Nat.mod_eq_of_lt (Nat.lt_of_lt_of_le below within)]
  rw [Narrow, whole]
  exact ⟨rfl, below⟩

theorem mix_injective (sound : shape.Sound) {left right : Nat}
    (smallLeft : left < shape.period * shape.spaces)
    (smallRight : right < shape.period * shape.spaces)
    (same : shape.mix (UInt64.ofNat left) = shape.mix (UInt64.ofNat right)) : left = right := by
  obtain ⟨whole, narrow⟩ := sound.narrow_point smallLeft
  obtain ⟨wholeToo, narrowToo⟩ := sound.narrow_point smallRight
  have words := sound.mix_scrambles.apart _ _ narrow narrowToo same
  rw [← whole, words, wholeToo]

theorem keyAt_injective (sound : shape.Sound) {left right : Nat}
    (smallLeft : left < shape.period * shape.spaces)
    (smallRight : right < shape.period * shape.spaces)
    (same : (shape.keyAt left).1 = (shape.keyAt right).1) : left = right := by
  have mixed {point : Nat} (small : point < shape.period * shape.spaces) :
      (shape.mix (UInt64.ofNat point)).toNat <
        2 ^ (symbolBits shape.printable * symbolsFor shape.printable shape.bits) :=
    Nat.lt_of_lt_of_le (sound.mix_scrambles.narrow _ (sound.narrow_point small).2)
      (Nat.pow_le_pow_right (by decide) shape.bits_le_head)
  rw [keyAt_fst, keyAt_fst] at same
  obtain ⟨heads, _⟩ := List.append_inj same (by rw [length_spell, length_spell])
  have spelled := shape.spell_eq heads
  rw [Nat.mod_eq_of_lt (mixed smallLeft), Nat.mod_eq_of_lt (mixed smallRight)] at spelled
  exact sound.mix_injective smallLeft smallRight (UInt64.toNat_inj.mp spelled)

theorem point_lt {space serial : Nat} (inside : space < shape.spaces)
    (early : serial < shape.period) :
    space * shape.period + serial < shape.period * shape.spaces := by
  have next : (space + 1) * shape.period ≤ shape.spaces * shape.period :=
    Nat.mul_le_mul_right _ inside
  rw [Nat.succ_mul, Nat.mul_comm shape.spaces] at next
  omega

/-- A coordinate tells the key space and the serial number. -/
theorem point_eq_iff (sound : shape.Sound) {space serial other later : Nat}
    (early : serial < shape.period) (earlyToo : later < shape.period) :
    space * shape.period + serial = other * shape.period + later ↔
      space = other ∧ serial = later := by
  constructor
  · intro points
    have spaces := congrArg (· / shape.period) points
    have serials := congrArg (· % shape.period) points
    simp only [Nat.mul_comm _ shape.period, Nat.mul_add_div sound.keys, Nat.mul_add_mod,
      Nat.div_eq_of_lt early, Nat.div_eq_of_lt earlyToo, Nat.mod_eq_of_lt early,
      Nat.mod_eq_of_lt earlyToo, Nat.add_zero] at spaces serials
    exact ⟨spaces, serials⟩
  · intro given
    obtain ⟨rfl, rfl⟩ := given
    rfl

theorem key_eq_iff (sound : shape.Sound) {space serial other later : Nat}
    (inside : space < shape.spaces) (early : serial < shape.period)
    (insideToo : other < shape.spaces) (earlyToo : later < shape.period) :
    (shape.keyAt (space * shape.period + serial)).1 =
        (shape.keyAt (other * shape.period + later)).1 ↔ space = other ∧ serial = later := by
  rw [← sound.point_eq_iff early earlyToo]
  constructor
  · exact sound.keyAt_injective (point_lt inside early) (point_lt insideToo earlyToo)
  · exact congrArg fun point => (shape.keyAt point).1

end Sound

end Shape

theorem lt_wordLimit {size : Nat} (small : size < wordLimit / 2) : size < wordLimit :=
  Nat.lt_of_lt_of_le small (Nat.div_le_self _ _)

namespace Walk

theorem new_ok {shape : Shape} {space start valueSize : Nat} {age : UInt64}
    (inside : space < shape.spaces) (small : shape.keySize + valueSize < wordLimit / 2) :
    Walk.new shape space start valueSize age =
      .ok ⟨shape, space, start % shape.period, age, valueSize⟩ := by
  rw [Walk.new, if_neg (Nat.not_le.mpr inside), if_neg (Nat.not_le.mpr (lt_wordLimit small)),
    if_neg (Nat.not_le.mpr small)]

/-- The walks over a key space of a shape: those made for it, wherever they went since. -/
inductive Over (shape : Shape) (space : Nat) : Walk → Prop where
  | new {start valueSize : Nat} {age : UInt64} {walk : Walk}
      (made : Walk.new shape space start valueSize age = .ok walk) : Over shape space walk
  | rewind {walk : Walk} (start : Nat) (belongs : Over shape space walk) :
      Over shape space (walk.rewind start)
  | next {walk : Walk} (belongs : Over shape space walk) : Over shape space walk.next.2
  | nextKey {walk : Walk} (belongs : Over shape space walk) : Over shape space walk.nextKey.2
  | fill {walk : Walk} {pool : Pool} (belongs : Over shape space walk) :
      Over shape space (pool.fill walk).2

/-- The walk some steps on. -/
def forward (walk : Walk) (steps : Nat) : Walk :=
  { walk with serial := (walk.serial + steps) % walk.shape.period }

theorem forward_zero {walk : Walk} (early : walk.serial < walk.shape.period) :
    walk.forward 0 = walk := by
  rw [forward, Nat.add_zero, Nat.mod_eq_of_lt early]

theorem advance_forward (walk : Walk) (steps : Nat) :
    walk.advance.forward steps = walk.forward (steps + 1) := by
  simp only [forward, advance, Nat.mod_add_mod, Nat.add_assoc, Nat.add_comm steps 1]

/-- A walk gives out the pairs of the places ahead of it. -/
theorem take_eq {walk : Walk} (early : walk.serial < walk.shape.period) (count : Nat) :
    walk.take count =
      ((List.range count).map fun steps => (walk.forward steps).next.1, walk.forward count) := by
  induction count generalizing walk with
  | zero => rw [take, forward_zero early, List.range_zero, List.map_nil]
  | succ count ih =>
      have positive : 0 < walk.shape.period := Nat.lt_of_le_of_lt (Nat.zero_le _) early
      have rest := @ih walk.advance (Nat.mod_lt _ positive)
      simp only [advance_forward] at rest
      rw [List.range_succ_eq_map, List.map_cons, List.map_map, forward_zero early]
      simp only [take, next, rest]
      rfl

namespace Over

variable {shape : Shape} {space : Nat} {walk : Walk}

theorem inside (belongs : Over shape space walk) (keys : 0 < shape.period) :
    walk.shape = shape ∧ walk.space = space ∧ space < shape.spaces ∧
      walk.serial < shape.period := by
  induction belongs with
  | new made =>
      unfold Walk.new at made
      split at made
      · cases made
      next inside =>
      split at made
      · cases made
      split at made
      · cases made
      cases made
      exact ⟨rfl, rfl, Nat.not_le.mp inside, Nat.mod_lt _ keys⟩
  | rewind start belongs ih =>
      obtain ⟨same, place, inside, early⟩ := ih
      exact ⟨same, place, inside, by rw [Walk.rewind, same]; exact Nat.mod_lt _ keys⟩
  | next belongs ih =>
      obtain ⟨same, place, inside, early⟩ := ih
      exact ⟨same, place, inside, by rw [Walk.next, advance, same]; exact Nat.mod_lt _ keys⟩
  | nextKey belongs ih =>
      obtain ⟨same, place, inside, early⟩ := ih
      exact ⟨same, place, inside, by rw [Walk.nextKey, advance, same]; exact Nat.mod_lt _ keys⟩
  | fill belongs ih =>
      obtain ⟨rfl, place, inside, early⟩ := ih
      rw [Pool.fill, take_eq early]
      exact ⟨rfl, place, inside, Nat.mod_lt _ keys⟩

end Over

end Walk

/-- The pairs that walks over a key space give out for a serial number: one by one, with a value or
without, or into a pool. -/
inductive Made (shape : Shape) (space serial : Nat) : Pair → Prop where
  | next {walk : Walk} (belongs : walk.Over shape space) (here : walk.serial = serial) :
      Made shape space serial walk.next.1
  | nextKey {walk : Walk} (belongs : walk.Over shape space) (here : walk.serial = serial) :
      Made shape space serial walk.nextKey.1
  | pooled {walk : Walk} {pool : Pool} {pair : Pair} {index : Nat}
      (belongs : walk.Over shape space) (here : (walk.serial + index) % shape.period = serial)
      (held : (pool.fill walk).1.pairs[index]? = some pair) : Made shape space serial pair

theorem Made.key {shape : Shape} {space serial : Nat} {pair : Pair}
    (made : Made shape space serial pair) (keys : 0 < shape.period) :
    space < shape.spaces ∧ serial < shape.period ∧
      pair.key = (shape.keyAt (space * shape.period + serial)).1 := by
  cases made with
  | next belongs here =>
      obtain ⟨rfl, rfl, inside, early⟩ := belongs.inside keys
      exact ⟨inside, here ▸ early, by rw [← here]; rfl⟩
  | nextKey belongs here =>
      obtain ⟨rfl, rfl, inside, early⟩ := belongs.inside keys
      exact ⟨inside, here ▸ early, by rw [← here]; rfl⟩
  | pooled belongs here held =>
      obtain ⟨rfl, rfl, inside, early⟩ := belongs.inside keys
      rw [Pool.fill, Walk.take_eq early] at held
      rw [List.getElem?_map, Option.map_eq_some_iff] at held
      obtain ⟨steps, place, rfl⟩ := held
      obtain ⟨_, rfl⟩ := List.getElem?_eq_some_iff.mp place
      rw [List.getElem_range]
      exact ⟨inside, here ▸ Nat.mod_lt _ keys, by rw [← here]; rfl⟩

/-- The keys of a key space. -/
def Shape.keysOf (shape : Shape) (space : Nat) : Set Bytes :=
  { key | ∃ serial pair, Made shape space serial pair ∧ pair.key = key }

/-- The keys of a shape are as different as their coordinates. -/
structure KeysApart (shape : Shape) : Prop where
  coordinates : ∀ space < shape.spaces, ∀ serial < shape.period,
    ∀ other < shape.spaces, ∀ later < shape.period,
      ((shape.keyAt (space * shape.period + serial)).1 =
        (shape.keyAt (other * shape.period + later)).1 ↔ space = other ∧ serial = later)
  pairs : ∀ space serial other later left right,
    Made shape space serial left → Made shape other later right →
      (left.key = right.key ↔ space = other ∧ serial = later)
  spaces : ∀ space other, space ≠ other → Disjoint (shape.keysOf space) (shape.keysOf other)
  reached : ∀ space < shape.spaces, ∀ serial < shape.period, ∀ (valueSize : Nat) (age : UInt64),
    shape.keySize + valueSize < wordLimit / 2 →
      Made shape space serial
        (shape.pairAt (space * shape.period + serial) valueSize age)

/-- Two pairs that were generated for a domain have the same key exactly if they are of the same
key space and serial number. -/
theorem keys_apart {printable : Bool} {keySize spaces sectors period : Nat} {seed : UInt64}
    {shape : Shape}
    (accepted : Shape.setup printable keySize spaces sectors period seed = .ok shape) :
    KeysApart shape := by
  have sound := (Shape.setup_sound accepted).1
  have pairs {space serial other later : Nat} {left right : Pair}
      (ours : Made shape space serial left) (theirs : Made shape other later right) :
      left.key = right.key ↔ space = other ∧ serial = later := by
    obtain ⟨inside, early, key⟩ := ours.key sound.keys
    obtain ⟨insideToo, earlyToo, keyToo⟩ := theirs.key sound.keys
    rw [key, keyToo]
    exact sound.key_eq_iff inside early insideToo earlyToo
  refine
    { coordinates := fun space inside serial early other insideToo later earlyToo =>
        sound.key_eq_iff inside early insideToo earlyToo
      pairs := fun _ _ _ _ _ _ => pairs
      spaces := ?_
      reached := ?_ }
  · intro space other different
    rw [Set.disjoint_left]
    intro key here there
    obtain ⟨serial, left, ours, same⟩ := here
    obtain ⟨later, right, theirs, sameToo⟩ := there
    exact different ((pairs ours theirs).mp (same.trans sameToo.symm)).1
  · intro space inside serial early valueSize age addressable
    have made : Walk.new shape space serial valueSize age =
        .ok ⟨shape, space, serial, age, valueSize⟩ := by
      rw [Walk.new, if_neg (Nat.not_le.mpr inside), if_neg (by unfold wordLimit at *; omega),
        if_neg (Nat.not_le.mpr addressable), Nat.mod_eq_of_lt early]
    exact .next (.new made) rfl

theorem keys_apart_full_width : ∃ shape,
    Shape.setup true 11 4 2 (2 ^ 62) 7 = .ok shape ∧ KeysApart shape := by
  have accepted : Shape.setup true 11 4 2 (2 ^ 62) 7 =
    .ok ⟨true, 11, 4, 2, 2 ^ 62, 64, shuffled (7 ^^^ UInt64.ofNat 11 * goldenFraction)⟩ := rfl
  exact ⟨_, accepted, keys_apart accepted⟩

end StoreBench.Keys
