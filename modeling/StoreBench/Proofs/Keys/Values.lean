import StoreBench.Proofs.Keys.Rounds

/-! Values tell records and ages apart.

The filler stream steps from word to word by a bijection of all words, so the word at which the key
of a coordinate ends still tells the coordinate, after however many steps, and after none.  The age
is added to that word in a form that can be undone, and with symbols of a byte the first eight
bytes of a value spell the next word of the stream in full.
-/

namespace StoreBench.Keys

section Words

theorem Scrambles.injective {step : UInt64 → UInt64} (scrambles : Scrambles 64 step) :
    Function.Injective step :=
  fun left right => scrambles.apart left right left.toNat_lt right.toNat_lt

theorem scaled_injective {factor : UInt64} (odd : factor.toNat % 2 = 1) :
    Function.Injective (· * factor) := by
  intro left right same
  exact (scaled_scrambles (Nat.le_refl 64) odd).injective (congrArg (· &&& _) same)

theorem remix_injective : Function.Injective remix := by
  have offset : Function.Injective fun word : UInt64 => word + goldenFraction :=
    fun _ _ same => (UInt64.add_left_inj goldenFraction).mp same
  have folded (shift : UInt64) (positive : 0 < shift.toNat) (small : shift.toNat < 64) :
      Function.Injective fun word : UInt64 => word ^^^ (word >>> shift) :=
    (folded_scrambles 64 positive small).injective
  have first := folded 30 (by decide) (by decide)
  have second := folded 27 (by decide) (by decide)
  have third := folded 31 (by decide) (by decide)
  have times := @scaled_injective multipliers.1 (by decide)
  have timesToo := @scaled_injective multipliers.2 (by decide)
  exact third.comp (timesToo.comp (second.comp (times.comp (first.comp offset))))

theorem salt_injective (word : UInt64) :
    Function.Injective fun age : UInt64 => word ^^^ age * goldenFraction := by
  intro younger older same
  have salts : younger * goldenFraction = older * goldenFraction :=
    (UInt64.xor_right_inj word).mp same
  exact scaled_injective (by decide) salts

end Words

namespace Shape

variable {shape : Shape}

theorem fill_last_injective (count : Nat) :
    Function.Injective fun word => (shape.fill word count).2 := by
  induction count using Nat.strongRecOn with
  | ind count ih =>
      intro left right same
      dsimp only at same
      rw [fill, fill] at same
      by_cases none : count = 0
      · rw [if_pos none, if_pos none] at same
        exact same
      · rw [if_neg none, if_neg none] at same
        have positive := shape.symbolsPerWord_pos
        exact remix_injective (ih (count - min count shape.symbolsPerWord) (by omega) same)

theorem take_fill (binary : shape.printable = false) {word : UInt64} {count : Nat}
    (long : 8 ≤ count) : (shape.fill word count).1.take 8 = shape.spell (remix word) 8 := by
  have eight : shape.symbolsPerWord = 8 := by
    rw [symbolsPerWord, binary]
    rfl
  rw [fill, if_neg (by omega), eight, Nat.min_eq_right long]
  exact List.take_left' (shape.length_spell _ 8)

theorem take_valueFrom_inj (binary : shape.printable = false) {word other age later : UInt64}
    {size sizeToo : Nat} (long : 8 ≤ size) (longToo : 8 ≤ sizeToo)
    (same : (shape.valueFrom word age size).take 8 = (shape.valueFrom other later sizeToo).take 8) :
    word ^^^ age * goldenFraction = other ^^^ later * goldenFraction := by
  rw [valueFrom, valueFrom, take_fill binary long, take_fill binary longToo] at same
  have spelled := shape.spell_eq same
  have bits : symbolBits shape.printable * 8 = 64 := by
    rw [binary]
    rfl
  rw [bits, Nat.mod_eq_of_lt (UInt64.toNat_lt _), Nat.mod_eq_of_lt (UInt64.toNat_lt _)] at spelled
  exact remix_injective (UInt64.toNat_inj.mp spelled)

/-- The word from which the values of a coordinate start tells the coordinate, also where the mixed
coordinate takes up the whole key. -/
theorem Sound.keyWord_injective (sound : shape.Sound) {left right : Nat}
    (smallLeft : left < shape.period * shape.spaces)
    (smallRight : right < shape.period * shape.spaces)
    (same : (shape.keyAt left).2 = (shape.keyAt right).2) : left = right :=
  sound.mix_injective smallLeft smallRight (shape.fill_last_injective _ same)

end Shape

theorem Shape.drawn_value (shape : Shape) (point valueSize : Nat) (age : UInt64) (way : Draw) :
    (shape.drawn point valueSize age way).value = [] ∨
      (shape.drawn point valueSize age way).value =
        shape.valueFrom (shape.keyAt point).2 age valueSize := by
  cases way with
  | get keyOnly =>
      cases keyOnly with
      | false => exact .inr rfl
      | true => exact .inl rfl
  | into key value => exact .inr rfl

/-- The pairs that walks of an age give out for a serial number of a key space: asked for in any
way, or into a pool. -/
inductive Dated (shape : Shape) (space serial : Nat) (age : UInt64) : Pair → Prop where
  | drawn {walk : Walk} (way : Draw) (belongs : walk.Over shape space)
      (here : walk.serial = serial) (salted : walk.age = age) :
      Dated shape space serial age (walk.draw way).1
  | pooled {walk : Walk} {pool : Pool} {pair : Pair} {index : Nat}
      (belongs : walk.Over shape space) (here : (walk.serial + index) % shape.period = serial)
      (salted : walk.age = age) (held : (pool.fill walk).1.pairs[index]? = some pair) :
      Dated shape space serial age pair

namespace Dated

variable {shape : Shape} {space serial : Nat} {age : UInt64} {pair : Pair}

theorem drawn_eq (dated : Dated shape space serial age pair) (keys : 0 < shape.period) :
    space < shape.spaces ∧ serial < shape.period ∧ ∃ valueSize way,
      pair = shape.drawn (space * shape.period + serial) valueSize age way := by
  cases dated with
  | @drawn walk way belongs here salted =>
      obtain ⟨rfl, rfl, inside, early⟩ := belongs.inside keys
      refine ⟨inside, here ▸ early, walk.valueSize, way, ?_⟩
      rw [Walk.draw_eq early, ← here, ← salted, Shape.spot, Nat.add_zero, Nat.mod_eq_of_lt early]
  | @pooled walk pool pair index belongs here salted held =>
      obtain ⟨rfl, rfl, inside, early⟩ := belongs.inside keys
      rw [Pool.fill, Walk.take_eq early, List.getElem?_map, Option.map_eq_some_iff] at held
      obtain ⟨steps, place, rfl⟩ := held
      obtain ⟨_, rfl⟩ := List.getElem?_eq_some_iff.mp place
      refine ⟨inside, here ▸ Nat.mod_lt _ keys, walk.valueSize, .get false, ?_⟩
      rw [List.getElem_range, ← here, ← salted]
      rfl

theorem key (dated : Dated shape space serial age pair) (keys : 0 < shape.period) :
    pair.key = (shape.keyAt (space * shape.period + serial)).1 := by
  obtain ⟨_, _, valueSize, way, rfl⟩ := dated.drawn_eq keys
  exact shape.drawn_key _ valueSize age way

theorem value (dated : Dated shape space serial age pair) (keys : 0 < shape.period)
    (long : 8 ≤ pair.value.length) :
    ∃ valueSize, 8 ≤ valueSize ∧ pair.value =
      shape.valueFrom (shape.keyAt (space * shape.period + serial)).2 age valueSize := by
  obtain ⟨_, _, valueSize, way, rfl⟩ := dated.drawn_eq keys
  rcases shape.drawn_value (space * shape.period + serial) valueSize age way with none | whole
  · rw [none] at long
    cases long
  · rw [whole, Shape.valueFrom, Shape.length_fill] at long
    exact ⟨valueSize, long, whole⟩

end Dated

/-- The first eight bytes of a value tell what it was made for. -/
structure ValuesApart (shape : Shape) : Prop where
  ages : ∀ space serial younger older left right, younger ≠ older →
    Dated shape space serial younger left → Dated shape space serial older right →
    8 ≤ left.value.length → 8 ≤ right.value.length → left.value.take 8 ≠ right.value.take 8
  records : ∀ space serial other later age left right, (space, serial) ≠ (other, later) →
    Dated shape space serial age left → Dated shape other later age right →
    8 ≤ left.value.length → 8 ≤ right.value.length → left.value.take 8 ≠ right.value.take 8
  keys : ∀ space serial younger older left right,
    Dated shape space serial younger left → Dated shape space serial older right →
    left.key = right.key
  reached : ∀ space < shape.spaces, ∀ serial < shape.period, ∀ (age : UInt64) (valueSize : Nat),
    shape.keySize + valueSize < wordLimit / 2 →
      ∃ pair, Dated shape space serial age pair ∧ pair.value.length = valueSize

/-- Two pairs of a domain with symbols of a byte differ in the first eight bytes of their values if
they are of one age but not of one coordinate, or of one coordinate but not of one age. -/
theorem values_apart {keySize spaces sectors period : Nat} {seed : UInt64} {shape : Shape}
    (accepted : Shape.setup false keySize spaces sectors period seed = .ok shape) :
    ValuesApart shape := by
  obtain ⟨sound, binary, _⟩ := Shape.setup_sound accepted
  -- Equal beginnings come from equal salted words.
  have words {space serial other later : Nat} {age ageToo : UInt64} {left right : Pair}
      (ours : Dated shape space serial age left) (theirs : Dated shape other later ageToo right)
      (long : 8 ≤ left.value.length) (longToo : 8 ≤ right.value.length)
      (same : left.value.take 8 = right.value.take 8) :
      (shape.keyAt (space * shape.period + serial)).2 ^^^ age * goldenFraction =
        (shape.keyAt (other * shape.period + later)).2 ^^^ ageToo * goldenFraction := by
    obtain ⟨size, enough, value⟩ := ours.value sound.keys long
    obtain ⟨sizeToo, enoughToo, valueToo⟩ := theirs.value sound.keys longToo
    rw [value, valueToo] at same
    exact Shape.take_valueFrom_inj binary enough enoughToo same
  constructor
  · intro space serial younger older left right different ours theirs long longToo same
    exact different (salt_injective _ (words ours theirs long longToo same))
  · intro space serial other later age left right different ours theirs long longToo same
    obtain ⟨inside, early, _⟩ := ours.drawn_eq sound.keys
    obtain ⟨insideToo, earlyToo, _⟩ := theirs.drawn_eq sound.keys
    have bare := (UInt64.xor_left_inj _).mp (words ours theirs long longToo same)
    have points := sound.keyWord_injective (Shape.Sound.point_lt inside early)
      (Shape.Sound.point_lt insideToo earlyToo) bare
    obtain ⟨rfl, rfl⟩ := (sound.point_eq_iff early earlyToo).mp points
    exact different rfl
  · intro space serial younger older left right ours theirs
    rw [ours.key sound.keys, theirs.key sound.keys]
  · intro space inside serial early age valueSize small
    have made := @Walk.new_ok shape space serial valueSize age inside small
    rw [Nat.mod_eq_of_lt early] at made
    exact ⟨_, .drawn (.get false) (.new made) rfl rfl, shape.length_fill _ valueSize⟩

/-- A key of eight bytes is the mixed coordinate and nothing else. -/
theorem values_apart_full_width : ∃ shape,
    Shape.setup false 8 4 2 (2 ^ 62) 7 = .ok shape ∧ ValuesApart shape := by
  have accepted : Shape.setup false 8 4 2 (2 ^ 62) 7 =
    .ok ⟨false, 8, 4, 2, 2 ^ 62, 64, shuffled (7 ^^^ UInt64.ofNat 8 * goldenFraction)⟩ := rfl
  exact ⟨_, accepted, values_apart accepted⟩

end StoreBench.Keys
