import StoreBench.Kind
import StoreBench.Latency.Scaled
import StoreBench.Latency.Tally

/-!
Timeline lines.

A line has a cell for every enabled kind, with the figures of the samples folded since the line
before it.  It is written twice: as text with scaled numbers, and as comma-separated values in
seconds.  The first line of a hub comes with a heading for the kinds enabled at that time.
-/

namespace StoreBench.Latency

open StoreBench.Decimal (ofNat fixed scientific)

/-- The figures of one kind in one line. -/
structure Figures where
  samples : Tally
  least : Nat
  greatest : Nat
  -- up to and including this line; the other figures are of this line alone
  count : Nat
  deriving DecidableEq

/-- A kind without samples in the line has no figures. -/
structure Cell where
  kind : Kind
  figures : Option Figures
  deriving DecidableEq

structure Line where
  time : Nat
  wall : Nat
  cells : List Cell
  deriving DecidableEq

structure Emission where
  heading : Option (List Kind)
  line : Line
  mirror : Option String
  deriving DecidableEq

/-- The seconds that rates are taken over: at least a nanosecond. -/
def Line.wallSeconds (line : Line) : Float :=
  let wall := durationSeconds line.wall
  if wall < 0.000000001 then 0.000000001 else wall

def headingText (kinds : List Kind) : String :=
  kinds.foldl (fun text _ => text ++
    " | bench      rps      min       avg       rms       max       vol           #N") "     time"

def headingCsv (kinds : List Kind) : String :=
  let columns (kind : Kind) : String :=
    let name := kind.name
    s!",\t{name}_rps,\t{name}_min,\t{name}_avg,\t{name}_rms,\t{name}_max"
  "\ttime" ++ String.join (kinds.map columns) ++ "\n"

def Cell.text (wall : Float) (cell : Cell) : String :=
  " | " ++ Text.padLeft 5 cell.kind.name ++
    match cell.figures with
    | none => "        -        -         -         -         -         -           - "
    | some figures =>
      ":" ++ scaled (ofNat figures.samples.count / wall) "" ++ latencyText figures.least ++
        latencyText figures.samples.mean ++ latencyText figures.samples.rootMeanSquare ++
        latencyText figures.greatest ++ scaled (ofNat figures.samples.volume / wall) "bps" ++
        scaled (ofNat figures.count) ""

/-- An idle kind leaves its first two fields to one pair of tabs. -/
def Cell.csv (wall : Float) (cell : Cell) : String :=
  match cell.figures with
  | none => ",\t\t,\t\t,\t\t,\t\t"
  | some figures =>
    ",\t" ++ scientific (ofNat figures.samples.count / wall) ++
      ",\t" ++ scientific (latencySeconds figures.least) ++
      ",\t" ++ scientific (latencySeconds figures.samples.mean) ++
      ",\t" ++ scientific (latencySeconds figures.samples.rootMeanSquare) ++
      ",\t" ++ scientific (latencySeconds figures.greatest)

def Line.text (line : Line) : String :=
  Text.padLeft 9 (fixed 3 (durationSeconds line.time)) ++
    String.join (line.cells.map (Cell.text line.wallSeconds))

def Line.csv (line : Line) : String :=
  scientific (durationSeconds line.time) ++
    String.join (line.cells.map (Cell.csv line.wallSeconds)) ++ "\n"

def Emission.text (emission : Emission) : List String :=
  (emission.heading.map headingText).toList ++ [emission.line.text]

def Emission.csv (emission : Emission) : String :=
  (emission.heading.map headingCsv).getD "" ++ emission.line.csv

end StoreBench.Latency
