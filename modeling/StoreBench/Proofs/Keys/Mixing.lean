import Mathlib.Data.List.FinRange
import Mathlib.Data.List.Nodup
import Mathlib.Data.Nat.ModEq
import Mathlib.Data.Nat.Prime.Basic
import StoreBench.Keys.Mixer

/-! The mixer loses nothing.

Every step of the mixer keeps words of the shape's width narrow and apart, so the whole chain does.
The shuffled table is a rearrangement of all bytes, whatever the seed draws; a multiplication is
undone because an odd number has no factor in common with a power of two; and a word is known from
its exclusive or with its own upper part.
-/

namespace StoreBench.Keys

theorem get_injective {α : Type} {size : Nat} {table : Vector α size}
    (distinct : table.toList.Nodup) : Function.Injective table.get := by
  intro i j same
  have length : size = table.toList.length := Vector.length_toList.symm
  have equal : table.toList.get (i.cast length) = table.toList.get (j.cast length) := by
    simp only [List.get_eq_getElem, Vector.getElem_toList]
    exact same
  exact Fin.cast_injective length (distinct.injective_get equal)

theorem exchange_perm (table : Substitution) (i j : Nat) :
    (exchange table i j).toList.Perm table.toList := by
  unfold exchange
  split
  · next bounds => exact (Vector.swap_perm bounds.1 bounds.2).toList
  · exact List.Perm.refl _

theorem shuffleFrom_perm (seed : UInt64) (source : Exchanges) (table : Substitution)
    (count : Nat) : (shuffleFrom seed source table count).toList.Perm table.toList := by
  induction count generalizing source table with
  | zero => exact List.Perm.refl _
  | succ count ih =>
      rw [shuffleFrom]
      exact (ih _ _).trans (exchange_perm table _ _)

theorem shuffled_injective (seed : UInt64) : Function.Injective (shuffled seed).get := by
  have bytes : Function.Injective fun i : Fin 256 => UInt8.ofNat i := by
    intro i j same
    have equal := congrArg UInt8.toNat same
    simp only [UInt8.toNat_ofNat'] at equal
    omega
  have distinct : (shuffled seed).toList.Nodup := by
    rw [shuffled, (shuffleFrom_perm seed .start _ 256).nodup_iff, Vector.toList_ofFn]
    exact List.nodup_ofFn.mpr bytes
  exact get_injective distinct

/-- The word has no more than so many bits. -/
def Narrow (bits : Nat) (word : UInt64) : Prop :=
  word.toNat < 2 ^ bits

/-- The function keeps narrow words narrow and apart. -/
structure Scrambles (bits : Nat) (step : UInt64 → UInt64) : Prop where
  narrow : ∀ word, Narrow bits word → Narrow bits (step word)
  apart : ∀ left right, Narrow bits left → Narrow bits right → step left = step right →
    left = right

theorem Scrambles.comp {bits : Nat} {first second : UInt64 → UInt64}
    (after : Scrambles bits second) (before : Scrambles bits first) :
    Scrambles bits fun word => second (first word) where
  narrow word small := after.narrow _ (before.narrow word small)
  apart left right smallLeft smallRight same :=
    before.apart left right smallLeft smallRight
      (after.apart _ _ (before.narrow left smallLeft) (before.narrow right smallRight) same)

section Masked

variable {bits : Nat} (within : bits ≤ 64)

include within

theorem two_pow_dvd_word : 2 ^ bits ∣ 2 ^ 64 :=
  Nat.pow_dvd_pow 2 within

theorem toNat_masked (word : UInt64) :
    (word &&& UInt64.ofNat (2 ^ bits - 1)).toNat = word.toNat % 2 ^ bits := by
  have bounded : 2 ^ bits ≤ 2 ^ 64 := Nat.pow_le_pow_right (by decide) within
  have positive : 0 < 2 ^ bits := Nat.two_pow_pos bits
  rw [UInt64.toNat_and, UInt64.toNat_ofNat', Nat.mod_eq_of_lt (by omega),
    Nat.and_two_pow_sub_one_eq_mod]

theorem masked_narrow (word : UInt64) :
    Narrow bits (word &&& UInt64.ofNat (2 ^ bits - 1)) := by
  rw [Narrow, toNat_masked within]
  exact Nat.mod_lt _ (Nat.two_pow_pos bits)

theorem offset_scrambles (offset : UInt64) :
    Scrambles bits fun word => (word + offset) &&& UInt64.ofNat (2 ^ bits - 1) where
  narrow word _ := masked_narrow within _
  apart left right smallLeft smallRight same := by
    have equal := congrArg UInt64.toNat same
    simp only [toNat_masked within, UInt64.toNat_add,
      Nat.mod_mod_of_dvd _ (two_pow_dvd_word within)] at equal
    have congruent : left.toNat ≡ right.toNat [MOD 2 ^ bits] :=
      Nat.ModEq.add_right_cancel' offset.toNat equal
    exact UInt64.toNat_inj.mp (Nat.ModEq.eq_of_lt_of_lt congruent smallLeft smallRight)

theorem scaled_scrambles {factor : UInt64} (odd : factor.toNat % 2 = 1) :
    Scrambles bits fun word => (word * factor) &&& UInt64.ofNat (2 ^ bits - 1) where
  narrow word _ := masked_narrow within _
  apart left right smallLeft smallRight same := by
    have equal := congrArg UInt64.toNat same
    simp only [toNat_masked within, UInt64.toNat_mul,
      Nat.mod_mod_of_dvd _ (two_pow_dvd_word within)] at equal
    have coprime : Nat.gcd (2 ^ bits) factor.toNat = 1 :=
      Nat.Coprime.pow_left bits (Nat.coprime_two_left.mpr (Nat.odd_iff.mpr odd))
    have congruent : left.toNat ≡ right.toNat [MOD 2 ^ bits] :=
      Nat.ModEq.cancel_right_of_coprime coprime equal
    exact UInt64.toNat_inj.mp (Nat.ModEq.eq_of_lt_of_lt congruent smallLeft smallRight)

end Masked

/-- The upper bits are known first, and each bit below from one above it. -/
theorem folded_scrambles (bits : Nat) {shift : UInt64} (positive : 0 < shift.toNat)
    (small : shift.toNat < 64) : Scrambles bits fun word => word ^^^ (word >>> shift) where
  narrow word narrow := by
    rw [Narrow, UInt64.toNat_xor, UInt64.toNat_shiftRight, Nat.mod_eq_of_lt small,
      Nat.shiftRight_eq_div_pow]
    exact Nat.xor_lt_two_pow narrow (Nat.lt_of_le_of_lt (Nat.div_le_self _ _) narrow)
  apart left right _ _ same := by
    have equal := congrArg UInt64.toNat same
    simp only [UInt64.toNat_xor, UInt64.toNat_shiftRight, Nat.mod_eq_of_lt small] at equal
    have difference : left.toNat ^^^ right.toNat =
        (left.toNat ^^^ right.toNat) >>> shift.toNat := by
      rw [Nat.shiftRight_xor_distrib]
      apply Nat.eq_of_testBit_eq
      intro place
      have bit := congrArg (Nat.testBit · place) equal
      simp only [Nat.testBit_xor] at bit ⊢
      revert bit
      generalize left.toNat.testBit place = a
      generalize right.toNat.testBit place = b
      generalize (left.toNat >>> shift.toNat).testBit place = c
      generalize (right.toNat >>> shift.toNat).testBit place = d
      cases a <;> cases b <;> cases c <;> cases d <;> decide
    have none : left.toNat ^^^ right.toNat = 0 := by
      by_contra some
      have shrinks : (left.toNat ^^^ right.toNat) >>> shift.toNat <
          left.toNat ^^^ right.toNat := by
        rw [Nat.shiftRight_eq_div_pow]
        exact Nat.div_lt_self (Nat.pos_of_ne_zero some) (Nat.one_lt_two_pow (by omega))
      omega
    exact UInt64.xor_eq_zero_iff.mp (UInt64.toNat_inj.mp (by rw [UInt64.toNat_xor, none]; rfl))

theorem toNat_upper (word : UInt64) :
    (word &&& ~~~0xFF).toNat = 2 ^ 8 * (word.toNat / 2 ^ 8) := by
  have upper : (~~~0xFF : UInt64).toNat = 2 ^ 8 * (2 ^ 56 - 1) := by decide
  rw [UInt64.toNat_and, upper]
  apply Nat.eq_of_testBit_eq
  intro place
  simp only [Nat.testBit_and, Nat.testBit_two_pow_mul, Nat.testBit_two_pow_sub_one,
    Nat.testBit_div_two_pow]
  by_cases low : 8 ≤ place
  · by_cases far : 64 ≤ place
    · have none : word.toNat.testBit place = false :=
        Nat.testBit_lt_two_pow
          (Nat.lt_of_lt_of_le word.toNat_lt (Nat.pow_le_pow_right (by decide) far))
      simp [none, low]
    · simp [low]
      omega
  · simp [low]

/-- Replaces the low byte. -/
def substituted (table : Substitution) (word : UInt64) : UInt64 :=
  (word &&& ~~~0xFF) |||
    (table.get ⟨(word &&& 0xFF).toNat % 256, Nat.mod_lt _ (by decide)⟩).toUInt64

theorem toNat_substituted (table : Substitution) (word : UInt64) :
    (substituted table word).toNat = 2 ^ 8 * (word.toNat / 2 ^ 8) +
      (table.get ⟨word.toNat % 256, Nat.mod_lt _ (by decide)⟩).toNat := by
  have byte : (word &&& 0xFF).toNat % 256 = word.toNat % 256 := by
    have masked := toNat_masked (show 8 ≤ 64 by decide) word
    have low : (word &&& 0xFF).toNat = word.toNat % 256 := masked
    rw [low, Nat.mod_mod]
  simp only [substituted, byte]
  rw [UInt64.toNat_or, toNat_upper, UInt8.toNat_toUInt64,
    Nat.two_pow_add_eq_or_of_lt (UInt8.toNat_lt _)]

/-- The upper part stays, and the table tells the low bytes apart. -/
theorem substituted_scrambles {bits : Nat} (wide : 8 ≤ bits) {table : Substitution}
    (injective : Function.Injective table.get) : Scrambles bits (substituted table) where
  narrow word narrow := by
    have split : 2 ^ bits = 2 ^ 8 * 2 ^ (bits - 8) := by
      rw [← Nat.pow_add, Nat.add_sub_cancel' wide]
    have byte := UInt8.toNat_lt (table.get ⟨word.toNat % 256, Nat.mod_lt _ (by decide)⟩)
    have upper : word.toNat / 2 ^ 8 < 2 ^ (bits - 8) :=
      Nat.div_lt_of_lt_mul (by rw [← split]; exact narrow)
    rw [Narrow, toNat_substituted, split]
    omega
  apart left right _ _ same := by
    have equal := congrArg UInt64.toNat same
    rw [toNat_substituted, toNat_substituted] at equal
    have lowLeft := UInt8.toNat_lt (table.get ⟨left.toNat % 256, Nat.mod_lt _ (by decide)⟩)
    have lowRight := UInt8.toNat_lt (table.get ⟨right.toNat % 256, Nat.mod_lt _ (by decide)⟩)
    have upper : left.toNat / 2 ^ 8 = right.toNat / 2 ^ 8 := by omega
    have byte := injective (UInt8.toNat_inj.mp (show
      (table.get ⟨left.toNat % 256, Nat.mod_lt _ (by decide)⟩).toNat =
        (table.get ⟨right.toNat % 256, Nat.mod_lt _ (by decide)⟩).toNat by omega))
    have lower : left.toNat % 256 = right.toNat % 256 := congrArg Fin.val byte
    exact UInt64.toNat_inj.mp (by omega)

theorem or_one_odd (word : UInt64) : (word ||| 1).toNat % 2 = 1 := by
  have bit : (word ||| 1).toNat.testBit 0 = true := by
    rw [UInt64.toNat_or, Nat.testBit_or]
    simp
  exact of_decide_eq_true ((Nat.testBit_zero _).symm.trans bit)

namespace Shape

/-- What setting up a shape guarantees. -/
structure Sound (shape : Shape) : Prop where
  keys : 0 < shape.period
  spacious : 0 < shape.spaces
  width : shape.bits ∈ widths
  domain : shape.period * shape.spaces ≤ 2 ^ shape.bits
  long : symbolsFor shape.printable shape.bits ≤ shape.keySize
  substitution : Function.Injective shape.substitution.get

theorem setup_sound {printable : Bool} {keySize spaces sectors period : Nat} {seed : UInt64}
    {shape : Shape} (accepted : setup printable keySize spaces sectors period seed = .ok shape) :
    shape.Sound ∧ shape.printable = printable ∧ shape.keySize = keySize ∧
      shape.spaces = spaces ∧ shape.sectors = sectors ∧ shape.period = period := by
  unfold setup at accepted
  split at accepted
  · cases accepted
  next keys =>
  split at accepted
  · cases accepted
  next spacious =>
  split at accepted
  · cases accepted
  dsimp only at accepted
  split at accepted
  · cases accepted
  next bits found =>
  split at accepted
  · cases accepted
  next long =>
  have suits := List.find?_some (p := fun bits => decide (period * spaces ≤ 2 ^ bits)) found
  have domain : period * spaces ≤ 2 ^ bits := of_decide_eq_true suits
  have injective := shuffled_injective (seed ^^^ UInt64.ofNat keySize * goldenFraction)
  generalize shuffled (seed ^^^ UInt64.ofNat keySize * goldenFraction) = table
    at accepted injective
  cases accepted
  exact ⟨
    { keys := Nat.pos_of_ne_zero keys
      spacious := Nat.pos_of_ne_zero spacious
      width := List.mem_of_find?_eq_some found
      domain
      long := Nat.not_lt.mp long
      substitution := injective }, rfl, rfl, rfl, rfl, rfl⟩

namespace Sound

variable {shape : Shape}

theorem bits_le (sound : shape.Sound) : 16 ≤ shape.bits ∧ shape.bits ≤ 64 := by
  have width := sound.width
  generalize shape.bits = bits at width
  revert bits
  decide

/-- The mixer is a bijection on the numbers of the shape's width. -/
theorem mix_scrambles (sound : shape.Sound) : Scrambles shape.bits shape.mix := by
  obtain ⟨wide, within⟩ := sound.bits_le
  have half : (UInt64.ofNat (shape.bits / 2)).toNat = shape.bits / 2 := by
    rw [UInt64.toNat_ofNat', Nat.mod_eq_of_lt (by omega)]
  have less : (UInt64.ofNat (shape.bits / 2 - 3)).toNat = shape.bits / 2 - 3 := by
    rw [UInt64.toNat_ofNat', Nat.mod_eq_of_lt (by omega)]
  have start := offset_scrambles within goldenFraction
  have byte := substituted_scrambles (show 8 ≤ shape.bits by omega) sound.substitution
  have scale (factor : UInt64) := scaled_scrambles within (or_one_odd (factor &&& shape.mask))
  have first := folded_scrambles shape.bits
    (show 0 < (UInt64.ofNat (shape.bits / 2)).toNat by omega) (by omega)
  have second := folded_scrambles shape.bits
    (show 0 < (UInt64.ofNat (shape.bits / 2 - 3)).toNat by omega) (by omega)
  exact second.comp ((scale multipliers.2).comp (first.comp ((scale multipliers.1).comp
    (byte.comp start))))

end Sound

end Shape

end StoreBench.Keys
