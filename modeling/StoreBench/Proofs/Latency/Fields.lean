import Mathlib.Data.List.Basic
import StoreBench.Latency.Timeline

/-! The fields of a timeline.

A text is read as a table by splitting it into lines and each line at its commas.  Neither the
names of kinds nor numbers contain a comma or a line feed, so a line is split into the fields that
it was put together from: five for a kind in the heading and for a kind with samples, four for a
kind without.
-/

namespace StoreBench.Text

/-- A text that is neither split at a comma nor at the end of a line. -/
def Plain (text : List Char) : Prop :=
  ∀ c ∈ text, c ≠ ',' ∧ c ≠ '\n'

instance (text : List Char) : Decidable (Plain text) :=
  List.decidableBAll (fun c => c ≠ ',' ∧ c ≠ '\n') text

section Splitting

variable {separator : Char} {piece rest : List Char}

theorem splitAt_plain (absent : separator ∉ piece) : splitAt separator piece = [piece] := by
  induction piece with
  | nil => rfl
  | cons c piece ih =>
      rw [List.mem_cons, not_or] at absent
      obtain ⟨different, absent⟩ := absent
      rw [splitAt, if_neg (Ne.symm different), ih absent]

theorem splitAt_append (absent : separator ∉ piece) :
    splitAt separator (piece ++ separator :: rest) = piece :: splitAt separator rest := by
  induction piece with
  | nil => rw [List.nil_append, splitAt, if_pos rfl]
  | cons c piece ih =>
      rw [List.mem_cons, not_or] at absent
      obtain ⟨different, absent⟩ := absent
      rw [List.cons_append, splitAt, if_neg (Ne.symm different), ih absent]

/-- Pieces that each follow a separator. -/
theorem splitAt_pieces {pieces : List (List Char)} (absent : separator ∉ piece)
    (absents : ∀ other ∈ pieces, separator ∉ other) :
    splitAt separator (piece ++ pieces.flatMap (separator :: ·)) = piece :: pieces := by
  induction pieces generalizing piece with
  | nil =>
      rw [List.flatMap_nil, List.append_nil]
      exact splitAt_plain absent
  | cons other pieces ih =>
      rw [List.flatMap_cons, List.cons_append, splitAt_append absent,
        ih (absents other List.mem_cons_self) fun one member =>
          absents one (List.mem_cons_of_mem _ member)]

/-- Pieces that each end with a separator. -/
theorem splitAt_lines {lines : List (List Char)} (absents : ∀ line ∈ lines, separator ∉ line) :
    splitAt separator (lines.flatMap (· ++ [separator])) = lines ++ [[]] := by
  induction lines with
  | nil => rfl
  | cons line lines ih =>
      rw [List.flatMap_cons, List.append_assoc, List.singleton_append,
        splitAt_append (absents line List.mem_cons_self),
        ih fun one member => absents one (List.mem_cons_of_mem _ member)]
      rfl

end Splitting

namespace Plain

variable {chars more : List Char} {text other : String}

theorem ofList (plain : Plain chars) : Plain (String.ofList chars).toList := by
  rw [String.toList_ofList]
  exact plain

theorem append (plain : Plain text.toList) (others : Plain other.toList) :
    Plain (text ++ other).toList := by
  intro c member
  rw [String.toList_append] at member
  rcases List.mem_append.mp member with member | member
  · exact plain c member
  · exact others c member

theorem sublist (plain : Plain chars) (part : more.Sublist chars) : Plain more :=
  fun c member => plain c (part.mem member)

theorem toDigits (value : Nat) : Plain (Nat.toDigits 10 value) := by
  intro c member
  have digit := Nat.isDigit_of_mem_toDigits (by decide) (by decide) member
  constructor
  · rintro rfl
    exact absurd digit (by decide)
  · rintro rfl
    exact absurd digit (by decide)

theorem int (value : Int) : Plain (toString value).toList := by
  cases value with
  | ofNat value => exact ofList (toDigits value)
  | negSucc value =>
      have sign : Plain "-".toList := by decide
      exact sign.append (ofList (toDigits (value + 1)))

end Plain

end StoreBench.Text

namespace StoreBench.Decimal

open Text (Plain)

theorem scientificDigits_plain (digits : Nat) (place : Int) :
    Plain (scientificDigits digits place).toList := by
  have kept : Plain ((Nat.toDigits 10 digits).reverse.dropWhile (· == '0')).reverse := by
    refine Plain.sublist (Plain.toDigits digits) ?_
    have dropped := (Nat.toDigits 10 digits).reverse.dropWhile_sublist (· == '0')
    simpa using dropped.reverse
  unfold scientificDigits
  dsimp only
  generalize ((Nat.toDigits 10 digits).reverse.dropWhile (· == '0')).reverse = kept at *
  have power := Plain.int (place + ((Nat.toDigits 10 digits).length : Int) - 1)
  generalize place + ((Nat.toDigits 10 digits).length : Int) - 1 = exponent at power ⊢
  have letter : Plain "e".toList := by decide
  have point : Plain ".".toList := by decide
  have digit {c : Char} (plain : Plain [c]) : Plain (toString c).toList := by
    change Plain (String.singleton c).toList
    rwa [String.toList_singleton]
  split
  · decide
  · exact ((digit kept).append letter).append power
  · next first rest _ =>
    have head : Plain [first] := kept.sublist (by simp)
    have tail : Plain (String.ofList rest).toList := .ofList (kept.sublist (by simp))
    exact ((((digit head).append point).append tail).append letter).append power

theorem scientific_plain (value : Float) : Plain (scientific value).toList := by
  have sign (negative : Bool) : Plain (if negative then "-" else "").toList := by
    cases negative <;> decide
  unfold scientific
  split
  · decide
  · split <;> decide
  · next negative mantissa exponent _ =>
    dsimp only
    split
    · have zero : Plain "0e0".toList := by decide
      exact (sign negative).append zero
    · exact (sign negative).append (scientificDigits_plain _ _)

end StoreBench.Decimal

namespace StoreBench.Latency

open Decimal (ofNat scientific scientific_plain)
open Text (Plain)

/-- The fields of a line with commas between them. -/
def joined : List String → List Char
  | [] => []
  | field :: fields => field.toList ++ fields.flatMap fun other => ',' :: other.toList

/-- A text as lines of fields; what comes after the last line feed is no line. -/
def table (text : String) : List (List String) :=
  (Text.splitAt '\n' text.toList).dropLast.map fun line =>
    (Text.splitAt ',' line).map String.ofList

/-- Fields that can be told apart once they are joined. -/
structure Distinct (row : List String) : Prop where
  some : row ≠ []
  plain : ∀ field ∈ row, Plain field.toList

namespace Distinct

variable {row : List String}

theorem split (distinct : Distinct row) :
    (Text.splitAt ',' (joined row)).map String.ofList = row := by
  cases row with
  | nil => exact absurd rfl distinct.some
  | cons field fields =>
      have absent {other : String} (member : other ∈ field :: fields) : ',' ∉ other.toList :=
        fun comma => (distinct.plain other member _ comma).1 rfl
      have absents : ∀ piece ∈ fields.map String.toList, ',' ∉ piece := by
        intro piece member
        obtain ⟨other, inside, rfl⟩ := List.mem_map.mp member
        exact absent (List.mem_cons_of_mem _ inside)
      have pieces := Text.splitAt_pieces (absent List.mem_cons_self) absents
      rw [List.flatMap_map] at pieces
      rw [joined, pieces, List.map_cons, List.map_map, String.ofList_toList]
      simp

theorem unbroken (distinct : Distinct row) : '\n' ∉ joined row := by
  cases row with
  | nil => exact List.not_mem_nil
  | cons field fields =>
      intro broken
      rcases List.mem_append.mp broken with broken | broken
      · exact (distinct.plain field List.mem_cons_self _ broken).2 rfl
      · obtain ⟨other, member, broken⟩ := List.mem_flatMap.mp broken
        rcases List.mem_cons.mp broken with comma | broken
        · exact absurd comma (by decide)
        · exact (distinct.plain other (List.mem_cons_of_mem _ member) _ broken).2 rfl

end Distinct

theorem table_of_rows {text : String} {rows : List (List String)}
    (made : text.toList = rows.flatMap (joined · ++ ['\n']))
    (distinct : ∀ row ∈ rows, Distinct row) : table text = rows := by
  have unbroken : ∀ line ∈ rows.map joined, '\n' ∉ line := by
    intro line member
    obtain ⟨row, inside, rfl⟩ := List.mem_map.mp member
    exact (distinct row inside).unbroken
  have lines := Text.splitAt_lines unbroken
  rw [List.flatMap_map, ← made] at lines
  rw [table, lines, List.dropLast_concat, List.map_map]
  calc rows.map _
      = rows.map id := List.map_congr_left fun row member => (distinct row member).split
    _ = rows := List.map_id rows

/-- The columns of a kind. -/
def kindColumns (kind : Kind) : List String :=
  ["_rps", "_min", "_avg", "_rms", "_max"].map fun figure => "\t" ++ kind.name ++ figure

def headingFields (kinds : List Kind) : List String :=
  "\ttime" :: kinds.flatMap kindColumns

/-- The figures of a kind with samples, each with the name of its column. -/
def Figures.columns (wall : Float) (kind : Kind) (figures : Figures) : List (String × String) :=
  (kindColumns kind).zip
    ([ofNat figures.samples.count / wall, latencySeconds figures.least,
      latencySeconds figures.samples.mean, latencySeconds figures.samples.rootMeanSquare,
      latencySeconds figures.greatest].map fun value => "\t" ++ scientific value)

/-- A kind without samples has a field less. -/
def Cell.fields (wall : Float) (cell : Cell) : List String :=
  match cell.figures with
  | none => List.replicate 4 "\t\t"
  | some figures => (figures.columns wall cell.kind).map Prod.snd

def Line.fields (line : Line) : List String :=
  scientific (durationSeconds line.time) :: line.cells.flatMap (Cell.fields line.wallSeconds)

/-- What a line with its heading, if it has one, adds to the table. -/
def Emission.rows (emission : Emission) : List (List String) :=
  (emission.heading.map headingFields).toList ++ [emission.line.fields]

theorem length_headingFields (kinds : List Kind) :
    (headingFields kinds).length = 1 + 5 * kinds.length := by
  induction kinds with
  | nil => rfl
  | cons kind kinds ih =>
      simp only [headingFields, List.length_cons, List.flatMap_cons, List.length_append] at ih ⊢
      rw [show (kindColumns kind).length = 5 from rfl]
      omega

theorem Cell.length_fields (wall : Float) (cell : Cell) :
    (cell.fields wall).length + (if cell.figures = none then 1 else 0) = 5 := by
  unfold fields
  rcases cell.figures with _ | figures
  · rfl
  · rfl

/-- A line is short by one field for every kind without samples. -/
theorem Line.length_fields (line : Line) :
    line.fields.length + line.cells.countP (·.figures = none) = 1 + 5 * line.cells.length := by
  unfold fields
  induction line.cells with
  | nil => rfl
  | cons cell cells ih =>
      have own := cell.length_fields line.wallSeconds
      simp only [List.length_cons, List.flatMap_cons, List.length_append, List.countP_cons,
        decide_eq_true_eq] at ih ⊢
      omega

theorem kindColumns_plain (kind : Kind) : ∀ field ∈ kindColumns kind, Plain field.toList := by
  cases kind <;> decide

theorem headingFields_distinct (kinds : List Kind) : Distinct (headingFields kinds) where
  some := List.cons_ne_nil _ _
  plain field member := by
    rcases List.mem_cons.mp member with rfl | member
    · decide
    · obtain ⟨kind, _, member⟩ := List.mem_flatMap.mp member
      exact kindColumns_plain kind field member

theorem Cell.fields_plain (wall : Float) (cell : Cell) :
    ∀ field ∈ cell.fields wall, Plain field.toList := by
  have tab : Plain "\t".toList := by decide
  intro field member
  unfold fields at member
  split at member
  · obtain rfl := List.eq_of_mem_replicate member
    decide
  · obtain ⟨⟨name, value⟩, inside, rfl⟩ := List.mem_map.mp member
    obtain ⟨number, _, same⟩ := List.mem_map.mp (List.of_mem_zip inside).2
    rw [← same]
    exact tab.append (scientific_plain number)

theorem Line.fields_distinct (line : Line) : Distinct line.fields where
  some := List.cons_ne_nil _ _
  plain field member := by
    rcases List.mem_cons.mp member with rfl | member
    · exact scientific_plain _
    · obtain ⟨cell, _, member⟩ := List.mem_flatMap.mp member
      exact cell.fields_plain _ field member

theorem headingCsv_joined (kinds : List Kind) :
    (headingCsv kinds).toList = joined (headingFields kinds) ++ ['\n'] := by
  unfold headingCsv headingFields joined
  simp only [String.toList_append, String.toList_join, List.flatMap_map, List.flatMap_assoc]
  congr 2
  refine List.flatMap_congr fun kind _ => ?_
  cases kind <;> decide

theorem Cell.csv_joined (wall : Float) (cell : Cell) :
    (cell.csv wall).toList = (cell.fields wall).flatMap fun field => ',' :: field.toList := by
  unfold csv fields
  rcases cell.figures with _ | figures
  · simp [List.replicate]
  · simp [Figures.columns, kindColumns]

theorem Line.csv_joined (line : Line) : line.csv.toList = joined line.fields ++ ['\n'] := by
  unfold csv fields joined
  simp only [String.toList_append, String.toList_join, List.flatMap_map, List.flatMap_assoc,
    Cell.csv_joined]
  rfl

theorem Emission.csv_joined (emission : Emission) :
    emission.csv.toList = emission.rows.flatMap (joined · ++ ['\n']) := by
  unfold csv rows
  rw [String.toList_append, List.flatMap_append, List.flatMap_singleton, Line.csv_joined]
  congr 1
  rcases emission.heading with _ | kinds
  · rfl
  · simp [headingCsv_joined]

/-- What is written line by line reads as the rows of all lines. -/
theorem table_emissions (emissions : List Emission) :
    table (String.join (emissions.map Emission.csv)) = emissions.flatMap Emission.rows := by
  refine table_of_rows ?_ ?_
  · rw [String.toList_join, List.flatMap_map, List.flatMap_assoc]
    exact List.flatMap_congr fun emission _ => emission.csv_joined
  · intro row member
    obtain ⟨emission, _, member⟩ := List.mem_flatMap.mp member
    rcases List.mem_append.mp member with member | member
    · obtain ⟨kinds, _, rfl⟩ := Option.map_eq_some_iff.mp (Option.mem_toList.mp member)
      exact headingFields_distinct kinds
    · rw [List.mem_singleton.mp member]
      exact emission.line.fields_distinct

end StoreBench.Latency
