import StoreBench.Document.Reader

/-!
Dates and times.

A moment is a date, a time, or a date with a time, which may be told as an offset from universal
time.  Fractions of a second are cut after nine digits.
-/

namespace StoreBench.Document

structure Date where
  year : Nat
  month : Nat
  day : Nat

structure Time where
  hour : Nat
  minute : Nat
  second : Nat
  nanosecond : Nat

inductive Offset where
  | universal
  | ahead (minutes : Int)

inductive Moment where
  | dateOnly (date : Date)
  | timeOnly (time : Time)
  | both (date : Date) (time : Time) (offset : Option Offset)

namespace Moment

open Reader

def isDigit (c : Char) : Bool :=
  '0' ≤ c && c ≤ '9'

def digitValue (c : Char) : Nat :=
  c.toNat - '0'.toNat

/-- A number of exactly `count` digits. -/
def fixedNumber (value : Nat) : Nat → Reader Nat
  | 0 => pure value
  | count + 1 => do
    let c ← oneOf isDigit
    fixedNumber (10 * value + digitValue c) count

/-- A number of two digits within bounds. -/
def within (low high : Nat) : Reader Nat := do
  let value ← fixedNumber 0 2
  if low ≤ value && value ≤ high then return value else failure

def isLeap (year : Nat) : Bool :=
  year % 4 == 0 && (year % 100 != 0 || year % 400 == 0)

def daysOf (year month : Nat) : Nat :=
  if month = 2 then if isLeap year then 29 else 28
  else if month = 4 || month = 6 || month = 9 || month = 11 then 30
  else 31

def readDate : Reader Date := do
  let year ← fixedNumber 0 4
  expect '-'
  let month ← within 1 12
  expect '-'
  let day ← within 1 31
  if day ≤ daysOf year month then return { year, month, day } else failure

/-- Nanoseconds of a fraction, from its first nine digits. -/
def fraction (digits : List Char) : Nat :=
  let kept := digits.take 9
  kept.foldl (fun value c => 10 * value + digitValue c) 0 * Nat.pow 10 (9 - kept.length)

/-- A leap second is the second 60 of any minute. -/
def readTime : Reader Time := do
  let hour ← within 0 23
  expect ':'
  let minute ← within 0 59
  expect ':'
  let second ← within 0 60
  let digits ← attempt do
    expect '.'
    let first ← oneOf isDigit
    return first :: (← span isDigit)
  return { hour, minute, second, nanosecond := fraction (digits.getD []) }

def readOffset : Reader Offset :=
  (do
    let _ ← oneOf fun c => c == 'Z' || c == 'z'
    return .universal) <|>
  (do
    let sign ← oneOf fun c => c == '+' || c == '-'
    let hour ← within 0 23
    expect ':'
    let minute ← within 0 59
    let minutes : Int := 60 * hour + minute
    return .ahead (if sign == '-' then -minutes else minutes))

def read : Reader Moment :=
  (do
    let date ← readDate
    let rest ← attempt do
      let _ ← oneOf fun c => c == 'T' || c == 't' || c == ' '
      let time ← readTime
      let offset ← attempt readOffset
      return (time, offset)
    match rest with
    | none => return .dateOnly date
    | some (time, offset) => return .both date time offset) <|>
  (.timeOnly <$> readTime)

/-- A number with at least `width` digits. -/
def padded (width value : Nat) : String :=
  let digits := Nat.toDigits 10 value
  String.ofList (List.replicate (width - digits.length) '0' ++ digits)

def dateText (date : Date) : String :=
  padded 4 date.year ++ "-" ++ padded 2 date.month ++ "-" ++ padded 2 date.day

/-- A fraction is written without trailing zeros. -/
def timeText (time : Time) : String :=
  let whole := padded 2 time.hour ++ ":" ++ padded 2 time.minute ++ ":" ++ padded 2 time.second
  if time.nanosecond = 0 then whole
  else
    let digits := (padded 9 time.nanosecond).toList
    whole ++ "." ++ String.ofList (digits.reverse.dropWhile (· == '0')).reverse

def offsetText : Offset → String
  | .universal => "Z"
  | .ahead minutes =>
    let size := minutes.natAbs
    (if minutes < 0 then "-" else "+") ++ padded 2 (size / 60) ++ ":" ++ padded 2 (size % 60)

def text : Moment → String
  | .dateOnly date => dateText date
  | .timeOnly time => timeText time
  | .both date time offset =>
    dateText date ++ "T" ++ timeText time ++ (offset.map offsetText).getD ""

end Moment

end StoreBench.Document
