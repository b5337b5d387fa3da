import Mathlib.Data.List.Forall2
import Mathlib.Data.List.TakeWhile
import StoreBench.Text.Blank

/-! Words between blanks and separators.

Trimming takes blanks from both ends of a text and nothing else, lower case forgets which letters
were in upper case, and splitting takes apart what was put together with separators.  Each of them
is described by the texts that it makes the same of.
-/

namespace StoreBench.Text

section Trimming

variable {text before word after : List Char}

/-- A text of blanks only, or of nothing. -/
def Blank (text : List Char) : Prop :=
  ∀ c ∈ text, isBlank c = true

/-- A text without blanks. -/
def Solid (text : List Char) : Prop :=
  ∀ c ∈ text, isBlank c = false

theorem Blank.reverse (blank : Blank text) : Blank text.reverse :=
  fun c member => blank c (List.mem_reverse.mp member)

/-- The first blanks are taken off, up to a word. -/
theorem dropWhile_blanks (blank : Blank before) (solid : Solid word) (some : word ≠ []) :
    (before ++ (word ++ after)).dropWhile isBlank = word ++ after := by
  rw [List.dropWhile_append_of_pos blank]
  cases word with
  | nil => exact absurd rfl some
  | cons c word =>
      have stop : ¬ isBlank c = true := by
        rw [solid c List.mem_cons_self]
        decide
      rw [List.cons_append, List.dropWhile_cons_of_neg stop]

theorem trimChars_blank (blank : Blank text) : trimChars text = [] := by
  have dropped : text.dropWhile isBlank = [] := List.dropWhile_eq_nil_iff.mpr blank
  rw [trimChars, dropped]
  rfl

theorem trimChars_word (left : Blank before) (solid : Solid word) (right : Blank after) :
    trimChars (before ++ (word ++ after)) = word := by
  by_cases none : word = []
  · subst none
    exact trimChars_blank fun c member => (List.mem_append.mp member).elim (left c) (right c)
  · have solidToo : Solid word.reverse := fun c member => solid c (List.mem_reverse.mp member)
    have someToo : word.reverse ≠ [] := fun same => none (List.reverse_eq_nil_iff.mp same)
    have dropped : (after.reverse ++ (word.reverse ++ [])).dropWhile isBlank = word.reverse ++ [] :=
      dropWhile_blanks right.reverse solidToo someToo
    rw [List.append_nil] at dropped
    rw [trimChars, dropWhile_blanks left solid none, List.reverse_append, dropped,
      List.reverse_reverse]

theorem trimChars_blanks (text : List Char) :
    ∃ before after, text = before ++ (trimChars text ++ after) ∧ Blank before ∧ Blank after := by
  have blanks (text : List Char) : Blank (text.takeWhile isBlank) :=
    List.all_eq_true.mp List.all_takeWhile
  refine ⟨text.takeWhile isBlank,
    ((text.dropWhile isBlank).reverse.takeWhile isBlank).reverse, ?_, blanks text,
    (blanks _).reverse⟩
  rw [trimChars, ← List.reverse_append, List.takeWhile_append_dropWhile, List.reverse_reverse,
    List.takeWhile_append_dropWhile]

theorem trimChars_eq_nil_iff : trimChars text = [] ↔ Blank text := by
  constructor
  · intro none
    obtain ⟨before, after, whole, left, right⟩ := trimChars_blanks text
    rw [none, List.nil_append] at whole
    rw [whole]
    exact fun c member => (List.mem_append.mp member).elim (left c) (right c)
  · exact trimChars_blank

theorem trim_isEmpty_iff (text : String) : (trim text).isEmpty = true ↔ Blank text.toList := by
  rw [String.isEmpty_iff, trim, ← String.toList_inj, String.toList_ofList, ← trimChars_eq_nil_iff]
  rfl

end Trimming

section Casing

variable {c letter : Char} {word name : List Char}

/-- A word with each of its letters in lower or in upper case. -/
def Cased (word name : List Char) : Prop :=
  List.Forall₂ (fun c letter => c = letter ∨ c = letter.toUpper) word name

theorem isLower_iff : c.isLower = true ↔ 97 ≤ c.toNat ∧ c.toNat ≤ 122 :=
  Bool.and_eq_true_iff.trans (and_congr decide_eq_true_iff decide_eq_true_iff)

theorem toNat_toLower (c : Char) :
    c.toLower.toNat = if 65 ≤ c.toNat ∧ c.toNat ≤ 90 then c.toNat + 32 else c.toNat := by
  have bounds : (c.val ≥ 'A'.val ∧ c.val ≤ 'Z'.val) ↔ 65 ≤ c.toNat ∧ c.toNat ≤ 90 := Iff.rfl
  unfold Char.toLower
  by_cases upper : 65 ≤ c.toNat ∧ c.toNat ≤ 90
  · rw [if_pos upper, dif_pos (bounds.mpr upper)]
    change (c.val + 32).toNat = c.toNat + 32
    rw [UInt32.toNat_add]
    change (c.toNat + 32) % 4294967296 = _
    omega
  · rw [if_neg upper, dif_neg (fun given => upper (bounds.mp given))]

theorem toNat_toUpper (c : Char) :
    c.toUpper.toNat = if 97 ≤ c.toNat ∧ c.toNat ≤ 122 then c.toNat - 32 else c.toNat := by
  have bounds : ('a'.val ≤ c.val ∧ c.val ≤ 'z'.val) ↔ 97 ≤ c.toNat ∧ c.toNat ≤ 122 := Iff.rfl
  unfold Char.toUpper
  by_cases lower : 97 ≤ c.toNat ∧ c.toNat ≤ 122
  · rw [if_pos lower, dif_pos (bounds.mpr lower)]
    change (c.val + 4294967264).toNat = c.toNat - 32
    rw [UInt32.toNat_add]
    change (c.toNat + 4294967264) % 4294967296 = _
    omega
  · rw [if_neg lower, dif_neg (fun given => lower (bounds.mp given))]

theorem toLower_eq_iff (small : letter.isLower = true) :
    c.toLower = letter ↔ c = letter ∨ c = letter.toUpper := by
  have bounds := isLower_iff.mp small
  rw [← Char.toNat_inj, ← Char.toNat_inj, ← Char.toNat_inj, toNat_toLower, toNat_toUpper,
    if_pos bounds]
  split <;> omega

theorem cased_iff (small : ∀ letter ∈ name, letter.isLower = true) :
    Cased word name ↔ word.map Char.toLower = name := by
  induction name generalizing word with
  | nil => rw [Cased, List.forall₂_nil_right_iff, List.map_eq_nil_iff]
  | cons letter name ih =>
      obtain ⟨first, others⟩ := List.forall_mem_cons.mp small
      cases word with
      | nil => simp [Cased]
      | cons c word =>
          rw [Cased, List.forall₂_cons, List.map_cons, List.cons_eq_cons, toLower_eq_iff first,
            ← ih others, Cased]

theorem isBlank_letter (small : c.toLower.isLower = true) : isBlank c = false := by
  rw [isLower_iff, toNat_toLower] at small
  have letter : 65 ≤ c.toNat ∧ c.toNat ≤ 122 := by
    split at small <;> omega
  by_contra blank
  rw [Bool.not_eq_false, isBlank, List.any_eq_true] at blank
  obtain ⟨⟨low, high⟩, listed, within⟩ := blank
  rw [Bool.and_eq_true, decide_eq_true_eq, decide_eq_true_eq] at within
  have apart : ∀ range ∈ blankRanges, range.2 < 65 ∨ 122 < range.1 := by decide
  have outside := apart _ listed
  dsimp only at outside
  omega

theorem Cased.solid (small : ∀ letter ∈ name, letter.isLower = true) (cased : Cased word name) :
    Solid word := by
  intro c member
  apply isBlank_letter
  apply small
  rw [← (cased_iff small).mp cased]
  exact List.mem_map_of_mem member

end Casing

section Splitting

variable {text : String}

theorem splitAt_eq_splitOn (separator : Char) (text : List Char) :
    splitAt separator text = text.splitOn separator := by
  induction text with
  | nil => rfl
  | cons c text ih =>
      have pieces := List.splitOn_ne_nil separator text
      rw [List.splitOn_cons_eq_if_modifyHead, splitAt, ih]
      by_cases same : c = separator
      · rw [if_pos same, if_pos (beq_iff_eq.mpr same)]
      · rw [if_neg same, if_neg fun equal => same (beq_iff_eq.mp equal)]
        cases split : text.splitOn separator with
        | nil => exact absurd split pieces
        | cons piece pieces => rfl

/-- No piece can be split any further. -/
theorem separator_notMem_splitAt {separator : Char} {text piece : List Char}
    (member : piece ∈ splitAt separator text) : separator ∉ piece := by
  fun_induction splitAt separator text generalizing piece with
  | case1 =>
      rw [List.mem_singleton.mp member]
      exact List.not_mem_nil
  | case2 rest ih =>
      rcases List.mem_cons.mp member with rfl | member
      · exact List.not_mem_nil
      · exact ih member
  | case3 c rest different none ih =>
      rw [List.mem_singleton.mp member, List.mem_singleton]
      exact Ne.symm different
  | case4 c rest different front others split ih =>
      rw [split] at ih
      rcases List.mem_cons.mp member with rfl | member
      · rw [List.mem_cons, not_or]
        exact ⟨Ne.symm different, ih List.mem_cons_self⟩
      · exact ih (List.mem_cons_of_mem _ member)

/-- The items of a text, between its commas. -/
def items (text : String) : List String :=
  (splitAt ',' text.toList).map String.ofList

theorem plain_of_mem_items {item : String} (member : item ∈ items text) : ',' ∉ item.toList := by
  obtain ⟨piece, inside, rfl⟩ := List.mem_map.mp member
  rw [String.toList_ofList]
  exact separator_notMem_splitAt inside

/-- Items without commas are found again. -/
theorem items_intercalate {parts : List String} (some : parts ≠ [])
    (plain : ∀ part ∈ parts, ',' ∉ part.toList) : items (",".intercalate parts) = parts := by
  have absent : ∀ piece ∈ parts.map String.toList, ',' ∉ piece := by
    intro piece member
    obtain ⟨part, inside, rfl⟩ := List.mem_map.mp member
    exact plain part inside
  have split := List.splitOn_intercalate ',' absent fun none => some (List.map_eq_nil_iff.mp none)
  have characters : (",".intercalate parts).toList =
      [','].intercalate (parts.map String.toList) := String.toList_intercalate
  rw [items, splitAt_eq_splitOn, characters, split, List.map_map]
  exact (List.map_congr_left fun part _ => String.ofList_toList).trans (List.map_id _)

/-- Joined again, the items are the text. -/
theorem intercalate_items (text : String) : ",".intercalate (items text) = text := by
  have characters : (items text).map String.toList = text.toList.splitOn ',' := by
    rw [items, splitAt_eq_splitOn, List.map_map]
    exact (List.map_congr_left fun piece _ => String.toList_ofList).trans (List.map_id _)
  apply String.toList_inj.mp
  rw [String.toList_intercalate, characters]
  exact List.intercalate_splitOn ','

end Splitting

end StoreBench.Text
