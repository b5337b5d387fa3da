import StoreBench.Text.Blank
import StoreBench.Decimal.Places
import StoreBench.Decimal.Shortest

/-!
Numbers as the reports show them.

A scaled number has three places, a width of seven, and a unit letter for the power of a thousand
it was divided by; the letter changes above 995 and below one.  Latencies are kept in nanoseconds
and shown in seconds.
-/

namespace StoreBench.Latency

open StoreBench.Decimal (ofNat fixed scientific)

def unitLetters : List Char :=
  ['y', 'z', 'a', 'f', 'p', 'n', 'u', 'm', ' ', 'K', 'M', 'G', 'T', 'P', 'E', 'Z', 'Y']

/-- Divides by a thousand while the value exceeds 995 and `left` larger units remain. -/
def scaleUp (value : Float) (place : Nat) : Nat → Float × Nat
  | 0 => (value, place)
  | left + 1 => if value > 995.0 then scaleUp (value * 0.001) (place + 1) left else (value, place)

def scaleDown (value : Float) : Nat → Float × Nat
  | 0 => (value, 0)
  | place + 1 => if value < 1.0 then scaleDown (value * 1000.0) place else (value, place + 1)

def scaled (value : Float) (unit : String) : String :=
  let (value, place) := scaleUp value 8 8
  let (value, place) := scaleDown value place
  let number := Text.padLeft 7 (fixed 3 value)
  if place = 8 then s!" {number}{unit} "
  else
    let letter := unitLetters.getD place ' '
    s!" {number}{letter}{unit}"

def latencySeconds (nanoseconds : Nat) : Float :=
  ofNat nanoseconds / 1000000000.0

/-- A duration in seconds: the whole seconds and the rest are converted apart. -/
def durationSeconds (nanoseconds : Nat) : Float :=
  ofNat (nanoseconds / 1000000000) + ofNat (nanoseconds % 1000000000) / 1000000000.0

def latencyText (nanoseconds : Nat) : String :=
  scaled (latencySeconds nanoseconds) "s"

end StoreBench.Latency
