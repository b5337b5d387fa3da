import StoreBench.Proofs.Keys.Collisions

/-! The generator in words and buffers.

A walk counts in natural numbers and makes each pair out of nothing.  A generator counts in 64-bit
words and writes into a buffer that still holds what was written before.  Every operation of it
that could go wrong says so: it gives nothing where a sum or a product leaves its word, a divisor is
zero, a word is shifted away, an index is outside its table, a part is outside its buffer, or an
assertion fails.  No generator ever comes to that, and it gives out the pairs of its walk.
-/

namespace StoreBench.Keys

section Words

variable {left right word : UInt64} {places : Nat}

def sum? (left right : UInt64) : Option UInt64 :=
  if left.toNat + right.toNat < wordLimit then some (left + right) else none

def product? (left right : UInt64) : Option UInt64 :=
  if left.toNat * right.toNat < wordLimit then some (left * right) else none

def remainder? (word divisor : UInt64) : Option UInt64 :=
  if divisor = 0 then none else some (word % divisor)

def shifted? (word : UInt64) (places : Nat) : Option UInt64 :=
  if places < 64 then some (word >>> UInt64.ofNat places) else none

theorem sum?_eq (fits : left.toNat + right.toNat < wordLimit) :
    ∃ sum, sum? left right = some sum ∧ sum.toNat = left.toNat + right.toNat := by
  refine ⟨left + right, if_pos fits, ?_⟩
  rw [UInt64.toNat_add]
  exact Nat.mod_eq_of_lt fits

theorem product?_eq (fits : left.toNat * right.toNat < wordLimit) :
    ∃ product, product? left right = some product ∧ product.toNat = left.toNat * right.toNat := by
  refine ⟨left * right, if_pos fits, ?_⟩
  rw [UInt64.toNat_mul]
  exact Nat.mod_eq_of_lt fits

theorem remainder?_eq (positive : 0 < right.toNat) :
    ∃ rest, remainder? left right = some rest ∧ rest.toNat = left.toNat % right.toNat := by
  refine ⟨left % right, if_neg ?_, UInt64.toNat_mod left right⟩
  rintro rfl
  exact Nat.lt_irrefl 0 positive

theorem shifted?_eq (small : places < 64) :
    shifted? word places = some (word >>> UInt64.ofNat places) :=
  if_pos small

end Words

namespace Shape

variable {shape : Shape}

theorem setup_word {printable : Bool} {keySize : Nat} {spaces sectors period seed : UInt64}
    (accepted : setup printable keySize spaces.toNat sectors.toNat period.toNat seed = .ok shape) :
    shape.Sound ∧ shape.period < wordLimit := by
  obtain ⟨sound, _, _, _, _, given⟩ := setup_sound accepted
  refine ⟨sound, ?_⟩
  rw [given]
  exact period.toNat_lt

/-- The symbol that spells the low bits of a word, looked up if it is printable. -/
def symbol? (shape : Shape) (word : UInt64) : Option UInt8 :=
  if shape.printable then alphabet[(word &&& 63).toNat]? else some word.toUInt8

/-- The word of a coordinate, with every look into the table and every shift checked. -/
def mix? (shape : Shape) (point : UInt64) : Option UInt64 := do
  let word := (point + goldenFraction) &&& shape.mask
  let low ← shape.substitution[(word &&& 0xFF).toNat]?
  let word := (word &&& ~~~0xFF) ||| low.toUInt64
  let word := (word * ((multipliers.1 &&& shape.mask) ||| 1)) &&& shape.mask
  let upper ← shifted? word (shape.bits / 2)
  let word := word ^^^ upper
  let word := (word * ((multipliers.2 &&& shape.mask) ||| 1)) &&& shape.mask
  let upper ← shifted? word (shape.bits / 2 - 3)
  some (word ^^^ upper)

/-- Overwrites a part of a buffer with the symbols of a word. -/
def write? (shape : Shape) (word : UInt64) : Bytes → Option Bytes
  | [] => some []
  | _ :: part => do
    let symbol ← shape.symbol? word
    let rest ← shifted? word (symbolBits shape.printable)
    let symbols ← shape.write? rest part
    some (symbol :: symbols)

/-- Overwrites a part of a buffer with the stream after a word, one word after the other. -/
def stream? (shape : Shape) (word : UInt64) (part : Bytes) : Option (Bytes × UInt64) :=
  if part = [] then some ([], word)
  else do
    let next := remix word
    let symbols ← shape.write? next (part.take shape.symbolsPerWord)
    let (rest, last) ← shape.stream? next (part.drop shape.symbolsPerWord)
    some (symbols ++ rest, last)
termination_by part.length
decreasing_by
  have positive := shape.symbolsPerWord_pos
  have some : 0 < part.length := List.length_pos_iff.mpr (by assumption)
  rw [List.length_drop]
  omega

/-- Overwrites a part of a buffer with the key of a coordinate, which must not exceed the mask. -/
def fillKey? (shape : Shape) (point : UInt64) (part : Bytes) : Option (Bytes × UInt64) := do
  let head := symbolsFor shape.printable shape.bits
  if shape.mask < point then none
  else if part.length < head then none
  else
    let mixed ← shape.mix? point
    let symbols ← shape.write? mixed (part.take head)
    let (rest, last) ← shape.stream? mixed (part.drop head)
    some (symbols ++ rest, last)

def fillValue? (shape : Shape) (word age : UInt64) (part : Bytes) : Option Bytes := do
  let (value, _) ← shape.stream? (word ^^^ age * goldenFraction) part
  some value

theorem symbol?_eq (word : UInt64) : shape.symbol? word = some (shape.symbol word) := by
  unfold symbol? symbol
  split
  · have low : (word &&& 63).toNat = word.toNat % 64 :=
      toNat_masked (show 6 ≤ 64 by decide) word
    rw [low, Vector.getElem?_eq_getElem (Nat.mod_lt _ (by decide))]
    rfl
  · rfl

theorem Sound.mix?_eq (sound : shape.Sound) (point : UInt64) :
    shape.mix? point = some (shape.mix point) := by
  obtain ⟨wide, within⟩ := sound.bits_le
  have look (word : UInt64) : shape.substitution[(word &&& 0xFF).toNat]? =
      some (shape.substitution.get ⟨(word &&& 0xFF).toNat % 256, Nat.mod_lt _ (by decide)⟩) := by
    have low : (word &&& 0xFF).toNat = word.toNat % 256 :=
      toNat_masked (show 8 ≤ 64 by decide) word
    have inside : (word &&& 0xFF).toNat < 256 := by
      rw [low]
      exact Nat.mod_lt _ (by decide)
    rw [Vector.getElem?_eq_getElem inside]
    simp only [Nat.mod_eq_of_lt inside]
    rfl
  simp only [mix?, look, shifted?_eq (show shape.bits / 2 < 64 by omega),
    shifted?_eq (show shape.bits / 2 - 3 < 64 by omega), Option.bind_eq_bind, Option.bind_some]
  rfl

theorem write?_eq (word : UInt64) (part : Bytes) :
    shape.write? word part = some (shape.spell word part.length) := by
  induction part generalizing word with
  | nil => rfl
  | cons byte part ih =>
      simp only [write?, symbol?_eq, shifted?_eq shape.symbolBits_lt, ih, Option.bind_eq_bind,
        Option.bind_some]
      rfl

theorem stream?_eq (word : UInt64) (part : Bytes) :
    shape.stream? word part = some (shape.fill word part.length) := by
  -- The part gets shorter by all the symbols of a word at once.
  induction length : part.length using Nat.strongRecOn generalizing word part with
  | ind size ih =>
      unfold stream? fill
      by_cases none : part = []
      · subst none
        subst length
        rfl
      · have positive := shape.symbolsPerWord_pos
        have some : 0 < part.length := List.length_pos_iff.mpr none
        have taken : (part.take shape.symbolsPerWord).length = min size shape.symbolsPerWord := by
          rw [List.length_take, length, Nat.min_comm]
        have left : (part.drop shape.symbolsPerWord).length =
            size - min size shape.symbolsPerWord := by
          rw [List.length_drop, length]
          omega
        simp only [if_neg none, if_neg (show ¬ size = 0 by omega), write?_eq, taken,
          ih _ (show size - min size shape.symbolsPerWord < size by omega) _ _ left,
          Option.bind_eq_bind, Option.bind_some]

theorem Sound.toNat_mask (sound : shape.Sound) : shape.mask.toNat = 2 ^ shape.bits - 1 := by
  have bounded : 2 ^ shape.bits ≤ 2 ^ 64 := Nat.pow_le_pow_right (by decide) sound.bits_le.2
  have positive := Nat.two_pow_pos shape.bits
  rw [mask, UInt64.toNat_ofNat']
  exact Nat.mod_eq_of_lt (by change 2 ^ shape.bits - 1 < 2 ^ 64; omega)

theorem Sound.fillKey?_eq (sound : shape.Sound) {point : UInt64} {part : Bytes}
    (narrow : Narrow shape.bits point) (size : part.length = shape.keySize) :
    shape.fillKey? point part = some (shape.keyAt point.toNat) := by
  have below : ¬ shape.mask < point := by
    rw [Narrow] at narrow
    rw [UInt64.lt_iff_toNat_lt, sound.toNat_mask]
    omega
  have long := sound.long
  have room : ¬ part.length < symbolsFor shape.printable shape.bits := by omega
  have head : (part.take (symbolsFor shape.printable shape.bits)).length =
      symbolsFor shape.printable shape.bits := by
    rw [List.length_take]
    omega
  have tail : (part.drop (symbolsFor shape.printable shape.bits)).length =
      shape.keySize - symbolsFor shape.printable shape.bits := by
    rw [List.length_drop, size]
  simp only [fillKey?, if_neg below, if_neg room, sound.mix?_eq, write?_eq, stream?_eq, head, tail,
    Option.bind_eq_bind, Option.bind_some]
  rw [keyAt, UInt64.ofNat_toNat]

theorem fillValue?_eq (word age : UInt64) (part : Bytes) :
    shape.fillValue? word age part = some (shape.valueFrom word age part.length) := by
  simp only [fillValue?, stream?_eq, Option.bind_eq_bind, Option.bind_some]
  rfl

end Shape

/-- A way to ask for the next pair. -/
inductive Draw where
  | get (keyOnly : Bool)
  | into (key value : Bytes)

/-- The bytes to be overwritten are as many as the pair has. -/
def Draw.Suits (keySize valueSize : Nat) : Draw → Prop
  | .get _ => True
  | .into key value => key.length = keySize ∧ value.length = valueSize

/-- What a walk can be told. -/
inductive Command where
  | rewind (start : UInt64)
  | draw (draw : Draw)

def Command.Suits (keySize valueSize : Nat) : Command → Prop
  | .rewind _ => True
  | .draw way => way.Suits keySize valueSize

namespace Walk

/-- However it is asked for, the next pair is the same, but for the value of a mere key. -/
def draw (walk : Walk) : Draw → Pair × Walk
  | .get true => walk.nextKey
  | .get false => walk.next
  | .into _ _ => walk.next

def draws (walk : Walk) : List Draw → List Pair × Walk
  | [] => ([], walk)
  | draw :: draws =>
    let (pair, walk) := walk.draw draw
    let (pairs, walk) := walk.draws draws
    (pair :: pairs, walk)

/-- The pairs drawn by some commands. -/
def obey (walk : Walk) : List Command → List Pair × Walk
  | [] => ([], walk)
  | .rewind start :: commands => (walk.rewind start.toNat).obey commands
  | .draw draw :: commands =>
    let (pair, walk) := walk.draw draw
    let (pairs, walk) := walk.obey commands
    (pair :: pairs, walk)

theorem draw_walk (walk : Walk) (draw : Draw) : (walk.draw draw).2 = walk.advance := by
  cases draw with
  | get keyOnly =>
      cases keyOnly with
      | false => rfl
      | true => rfl
  | into key value => rfl

/-- A walk that the words of a generator can follow. -/
structure Regular (walk : Walk) : Prop where
  sound : walk.shape.Sound
  period : walk.shape.period < wordLimit
  inside : walk.space < walk.shape.spaces
  early : walk.serial < walk.shape.period

namespace Regular

variable {walk : Walk}

theorem rewind (regular : walk.Regular) (start : Nat) : (walk.rewind start).Regular where
  sound := regular.sound
  period := regular.period
  inside := regular.inside
  early := Nat.mod_lt _ regular.sound.keys

theorem advance (regular : walk.Regular) : walk.advance.Regular where
  sound := regular.sound
  period := regular.period
  inside := regular.inside
  early := Nat.mod_lt _ regular.sound.keys

/-- The coordinate is narrow enough for the shape and for a word. -/
theorem point_lt (regular : walk.Regular) :
    walk.point < 2 ^ walk.shape.bits ∧ walk.point < wordLimit := by
  have below : walk.point < walk.shape.period * walk.shape.spaces :=
    Shape.Sound.point_lt regular.inside regular.early
  have within : 2 ^ walk.shape.bits ≤ 2 ^ 64 :=
    Nat.pow_le_pow_right (by decide) regular.sound.bits_le.2
  have narrow := Nat.lt_of_lt_of_le below regular.sound.domain
  exact ⟨narrow, Nat.lt_of_lt_of_le narrow within⟩

end Regular

end Walk

structure Generator where
  shape : Shape
  base : UInt64
  serial : UInt64
  age : UInt64
  valueSize : Nat
  buffer : Bytes

namespace Generator

def period (generator : Generator) : UInt64 :=
  UInt64.ofNat generator.shape.period

def new (shape : Shape) (space start : UInt64) (valueSize : Nat) (age : UInt64) :
    Except Stop Generator :=
  if shape.spaces ≤ space.toNat then
    .error (.failure (.config (.spaceOutOfRange space.toNat shape.spaces)))
  else if wordLimit ≤ shape.keySize + valueSize then .error (.panic .overflow)
  else if wordLimit / 2 ≤ shape.keySize + valueSize then .error (.panic .allocation)
  else
    match product? space (UInt64.ofNat shape.period),
      remainder? start (UInt64.ofNat shape.period) with
    | some base, some serial =>
      .ok { shape, base, serial, age, valueSize
            buffer := List.replicate (shape.keySize + valueSize) 0 }
    | _, _ => .error (.panic .overflow)

def rewind? (generator : Generator) (start : UInt64) : Option Generator := do
  let serial ← remainder? start generator.period
  some { generator with serial }

/-- The coordinate of the next pair. -/
def advance? (generator : Generator) : Option (UInt64 × Generator) := do
  let point ← sum? generator.base generator.serial
  let next ← sum? generator.serial 1
  let serial ← remainder? next generator.period
  some (point, { generator with serial })

/-- Into the generator's own buffer; a mere key leaves the old value there. -/
def get? (generator : Generator) (keyOnly : Bool) : Option (Pair × Generator) := do
  let (point, generator) ← generator.advance?
  if generator.buffer.length < generator.shape.keySize then none
  else
    let (key, word) ← generator.shape.fillKey? point
      (generator.buffer.take generator.shape.keySize)
    let rest := generator.buffer.drop generator.shape.keySize
    if keyOnly then some (⟨key, []⟩, { generator with buffer := key ++ rest })
    else
      let value ← generator.shape.fillValue? word generator.age rest
      some (⟨key, value⟩, { generator with buffer := key ++ value })

def into? (generator : Generator) (key value : Bytes) : Option (Pair × Generator) := do
  if key.length ≠ generator.shape.keySize ∨ value.length ≠ generator.valueSize then none
  else
    let (point, generator) ← generator.advance?
    let (key, word) ← generator.shape.fillKey? point key
    let value ← generator.shape.fillValue? word generator.age value
    some (⟨key, value⟩, generator)

def draw? (generator : Generator) : Draw → Option (Pair × Generator)
  | .get keyOnly => generator.get? keyOnly
  | .into key value => generator.into? key value

/-- The pairs drawn by some commands, if all goes well. -/
def obey? (generator : Generator) : List Command → Option (List Pair × Generator)
  | [] => some ([], generator)
  | .rewind start :: commands => do
    let generator ← generator.rewind? start
    generator.obey? commands
  | .draw draw :: commands => do
    let (pair, generator) ← generator.draw? draw
    let (pairs, generator) ← generator.obey? commands
    some (pair :: pairs, generator)

/-- The generator is where the walk is, whatever is left in its buffer. -/
structure Represents (generator : Generator) (walk : Walk) : Prop where
  shape : generator.shape = walk.shape
  base : generator.base.toNat = walk.space * walk.shape.period
  serial : generator.serial.toNat = walk.serial
  age : generator.age = walk.age
  valueSize : generator.valueSize = walk.valueSize
  buffer : generator.buffer.length = walk.shape.keySize + walk.valueSize

namespace Represents

variable {generator : Generator} {walk : Walk}

theorem period (represents : generator.Represents walk) (regular : walk.Regular) :
    generator.period.toNat = walk.shape.period := by
  rw [Generator.period, represents.shape, UInt64.toNat_ofNat']
  exact Nat.mod_eq_of_lt regular.period

theorem rewind (represents : generator.Represents walk) (regular : walk.Regular)
    (start : UInt64) : ∃ next, generator.rewind? start = some next ∧
      next.Represents (walk.rewind start.toNat) := by
  have period := represents.period regular
  obtain ⟨serial, found, same⟩ := @remainder?_eq start generator.period (by
    rw [period]
    exact regular.sound.keys)
  refine ⟨{ generator with serial }, ?_, ?_⟩
  · simp only [rewind?, found, Option.bind_eq_bind, Option.bind_some]
  · exact { represents with serial := by rw [same, period]; rfl }

theorem advance (represents : generator.Represents walk) (regular : walk.Regular) :
    ∃ point next, generator.advance? = some (point, next) ∧ point.toNat = walk.point ∧
      next.Represents walk.advance := by
  have period := represents.period regular
  obtain ⟨point, summed, coordinate⟩ := @sum?_eq generator.base generator.serial (by
    rw [represents.base, represents.serial]
    exact regular.point_lt.2)
  -- A period fits a word, so the serial number before the remainder is taken does, too.
  obtain ⟨after, counted, successor⟩ := @sum?_eq generator.serial 1 (by
    have := regular.early
    have := regular.period
    rw [represents.serial]
    change walk.serial + 1 < wordLimit
    omega)
  obtain ⟨serial, found, same⟩ := @remainder?_eq after generator.period (by
    rw [period]
    exact regular.sound.keys)
  refine ⟨point, { generator with serial }, ?_, ?_, ?_⟩
  · simp only [advance?, summed, counted, found, Option.bind_eq_bind, Option.bind_some]
  · rw [coordinate, represents.base, represents.serial]
    rfl
  · exact
      { represents with
        serial := by
          rw [same, period, successor, represents.serial]
          rfl }

/-- Both ways of drawing write the key of the walk's coordinate over any bytes. -/
theorem writes (represents : generator.Represents walk) (regular : walk.Regular) :
    ∃ point next, generator.advance? = some (point, next) ∧ next.Represents walk.advance ∧
      ∀ part : Bytes, part.length = walk.shape.keySize →
        next.shape.fillKey? point part = some (walk.shape.keyAt walk.point) := by
  obtain ⟨point, next, advanced, coordinate, follows⟩ := represents.advance regular
  have narrow : Narrow walk.shape.bits point := by
    rw [Narrow, coordinate]
    exact regular.point_lt.1
  have shape : next.shape = walk.shape := follows.shape
  refine ⟨point, next, advanced, follows, fun part size => ?_⟩
  rw [shape, regular.sound.fillKey?_eq narrow size, coordinate]

theorem get (represents : generator.Represents walk) (regular : walk.Regular) (keyOnly : Bool) :
    ∃ next, generator.get? keyOnly = some ((walk.draw (.get keyOnly)).1, next) ∧
      next.Represents walk.advance := by
  obtain ⟨point, next, advanced, follows, writes⟩ := represents.writes regular
  have shape : next.shape = walk.shape := follows.shape
  have length : next.buffer.length = walk.shape.keySize + walk.valueSize := follows.buffer
  have room : ¬ next.buffer.length < walk.shape.keySize := by omega
  have written := writes (next.buffer.take walk.shape.keySize) (by
    rw [List.length_take]
    omega)
  have left : (next.buffer.drop walk.shape.keySize).length = walk.valueSize := by
    rw [List.length_drop]
    omega
  have key := Shape.length_keyAt regular.sound walk.point
  rw [shape] at written
  cases keyOnly with
  | true =>
      refine ⟨{ next with
        buffer := (walk.shape.keyAt walk.point).1 ++ next.buffer.drop walk.shape.keySize }, ?_, ?_⟩
      · simp only [get?, advanced, shape, if_neg room, written, Option.bind_eq_bind,
          Option.bind_some, if_true]
        rfl
      · exact { follows with buffer := by rw [List.length_append, key, left]; rfl }
  | false =>
      have value : (walk.shape.valueFrom (walk.shape.keyAt walk.point).2 walk.age
          walk.valueSize).length = walk.valueSize := walk.shape.length_fill _ _
      refine ⟨{ next with
        buffer := (walk.shape.keyAt walk.point).1 ++
          walk.shape.valueFrom (walk.shape.keyAt walk.point).2 walk.age walk.valueSize }, ?_, ?_⟩
      · simp only [get?, advanced, shape, if_neg room, written, Shape.fillValue?_eq, left,
          follows.age, Option.bind_eq_bind, Option.bind_some]
        rfl
      · exact { follows with buffer := by rw [List.length_append, key, value]; rfl }

theorem into (represents : generator.Represents walk) (regular : walk.Regular)
    {key value : Bytes} (keySize : key.length = walk.shape.keySize)
    (valueSize : value.length = walk.valueSize) :
    ∃ next, generator.into? key value = some (walk.next.1, next) ∧
      next.Represents walk.advance := by
  obtain ⟨point, next, advanced, follows, writes⟩ := represents.writes regular
  have suits : ¬ (key.length ≠ generator.shape.keySize ∨ value.length ≠ generator.valueSize) := by
    rw [represents.shape, represents.valueSize]
    exact not_or.mpr ⟨not_not.mpr keySize, not_not.mpr valueSize⟩
  have shape : next.shape = walk.shape := follows.shape
  have written := writes key keySize
  rw [shape] at written
  refine ⟨next, ?_, follows⟩
  rw [into?, if_neg suits]
  simp only [advanced, shape, written, Shape.fillValue?_eq, valueSize, follows.age,
    Option.bind_eq_bind, Option.bind_some]
  rfl

/-- Drawing a pair never fails, and gives what the walk gives. -/
theorem draw (represents : generator.Represents walk) (regular : walk.Regular) {way : Draw}
    (suits : way.Suits walk.shape.keySize walk.valueSize) :
    ∃ next, generator.draw? way = some ((walk.draw way).1, next) ∧
      next.Represents (walk.draw way).2 := by
  rw [walk.draw_walk]
  cases way with
  | get keyOnly => exact represents.get regular keyOnly
  | into key value => exact represents.into regular suits.1 suits.2

/-- No command fails, in whatever order they come. -/
theorem obey (represents : generator.Represents walk) (regular : walk.Regular)
    {commands : List Command}
    (suits : ∀ command ∈ commands, command.Suits walk.shape.keySize walk.valueSize) :
    ∃ next, generator.obey? commands = some ((walk.obey commands).1, next) ∧
      next.Represents (walk.obey commands).2 := by
  induction commands generalizing generator walk with
  | nil => exact ⟨generator, rfl, represents⟩
  | cons command commands ih =>
      obtain ⟨suitable, later⟩ := List.forall_mem_cons.mp suits
      cases command with
      | rewind start =>
          obtain ⟨mid, rewound, follows⟩ := represents.rewind regular start
          obtain ⟨next, obeyed, ends⟩ := ih follows (regular.rewind start.toNat) later
          refine ⟨next, ?_, ends⟩
          simp only [obey?, rewound, obeyed, Option.bind_eq_bind, Option.bind_some]
          rfl
      | draw way =>
          obtain ⟨mid, drawn, follows⟩ := represents.draw regular suitable
          have same := walk.draw_walk way
          obtain ⟨next, obeyed, ends⟩ := ih (same ▸ follows) regular.advance later
          rw [← same] at obeyed ends
          refine ⟨next, ?_, ends⟩
          simp only [obey?, drawn, obeyed, Option.bind_eq_bind, Option.bind_some]
          rfl

end Represents

theorem new_represents {shape : Shape} (sound : shape.Sound) (period : shape.period < wordLimit)
    (space start : UInt64) (valueSize : Nat) (age : UInt64) :
    (∃ stop, Walk.new shape space.toNat start.toNat valueSize age = .error stop ∧
      new shape space start valueSize age = .error stop) ∨
    ∃ walk generator, Walk.new shape space.toNat start.toNat valueSize age = .ok walk ∧
      new shape space start valueSize age = .ok generator ∧ walk.Regular ∧
      generator.Represents walk := by
  have word : (UInt64.ofNat shape.period).toNat = shape.period := by
    rw [UInt64.toNat_ofNat']
    exact Nat.mod_eq_of_lt period
  unfold Walk.new new
  by_cases outside : shape.spaces ≤ space.toNat
  · rw [if_pos outside, if_pos outside]
    exact .inl ⟨_, rfl, rfl⟩
  by_cases vast : wordLimit ≤ shape.keySize + valueSize
  · rw [if_neg outside, if_neg outside, if_pos vast, if_pos vast]
    exact .inl ⟨_, rfl, rfl⟩
  by_cases large : wordLimit / 2 ≤ shape.keySize + valueSize
  · rw [if_neg outside, if_neg outside, if_neg vast, if_neg vast, if_pos large, if_pos large]
    exact .inl ⟨_, rfl, rfl⟩
  · right
    have keys := sound.keys
    -- The first coordinate of the space is one of the domain, and they all fit the width.
    have first : space.toNat * shape.period < wordLimit := by
      have below := Shape.Sound.point_lt (Nat.not_le.mp outside) keys
      have within : 2 ^ shape.bits ≤ 2 ^ 64 :=
        Nat.pow_le_pow_right (by decide) sound.bits_le.2
      have := sound.domain
      change space.toNat * shape.period < 2 ^ 64
      omega
    obtain ⟨base, multiplied, begins⟩ := @product?_eq space (UInt64.ofNat shape.period) (by
      rw [word]
      exact first)
    obtain ⟨serial, found, same⟩ := @remainder?_eq start (UInt64.ofNat shape.period) (by
      rw [word]
      exact keys)
    rw [word] at begins same
    simp only [if_neg outside, if_neg vast, if_neg large, multiplied, found]
    refine ⟨_, _, rfl, rfl, ?_, ?_⟩
    · exact
        { sound := sound
          period := period
          inside := Nat.not_le.mp outside
          early := Nat.mod_lt _ keys }
    · exact
        { shape := rfl
          base := begins
          serial := same
          age := rfl
          valueSize := rfl
          buffer := List.length_replicate }

end Generator

end StoreBench.Keys
