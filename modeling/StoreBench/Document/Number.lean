import StoreBench.Decimal.Binary64
import StoreBench.Document.Moment
import StoreBench.Document.Value

/-!
Numbers.

Single underscores may stand between digits.  A decimal number has no leading zeros; hexadecimal,
octal and binary numbers have a letter behind a zero, and no sign.  Integers have 64 bits.  A
number with a fraction or an exponent is a double, and so are the infinities and what is not a
number; digits that exceed the largest double are refused, but only with a positive sign.
-/

namespace StoreBench.Document.Number

open Reader
open Moment (isDigit digitValue)

/-- Digits of a base, their underscores dropped. -/
def digits (accepts : Char → Bool) : Reader (List Char) := do
  let first ← oneOf accepts
  let rest ← many (oneOf accepts <|> (do expect '_'; oneOf accepts))
  return first :: rest

def digitOf (c : Char) : Nat :=
  if isDigit c then digitValue c else c.toLower.toNat - 'a'.toNat + 10

def valueOf (base : Nat) (digits : List Char) : Nat :=
  digits.foldl (fun value c => base * value + digitOf c) 0

def sign : Reader (Option Bool) :=
  attempt do
    let c ← oneOf fun c => c == '+' || c == '-'
    return c == '-'

/-- Decimal digits without leading zeros. -/
def whole : Reader (List Char) := do
  let all ← digits isDigit
  match all with
  | '0' :: _ :: _ => failure
  | _ => return all

/-- An integer that 64 bits can hold. -/
def bounded (value : Int) : Reader Int :=
  if -0x8000000000000000 ≤ value && value < 0x8000000000000000 then pure value else failure

def based (letter : Char) (base : Nat) (accepts : Char → Bool) : Reader Int := do
  exactly ['0', letter]
  bounded (valueOf base (← digits accepts))

def isHexDigit (c : Char) : Bool :=
  isDigit c || ('a' ≤ c && c ≤ 'f') || ('A' ≤ c && c ≤ 'F')

def integer : Reader Int :=
  based 'x' 16 isHexDigit <|>
  based 'o' 8 (fun c => '0' ≤ c && c ≤ '7') <|>
  based 'b' 2 (fun c => c == '0' || c == '1') <|>
  (do
    let negative := (← sign).getD false
    let size := valueOf 10 (← whole)
    bounded (if negative then -(size : Int) else size))

def exponent : Reader Int := do
  let _ ← oneOf fun c => c == 'e' || c == 'E'
  let negative := (← sign).getD false
  let size := valueOf 10 (← digits isDigit)
  return if negative then -(size : Int) else size

def fraction : Reader (List Char) := do
  expect '.'
  digits isDigit

/-- The double nearest to a decimal; the positive infinity only by its name. -/
def nearest (negative : Bool) (digits : Nat) (exponent : Int) : Reader Float :=
  let value := Decimal.ofDecimal negative digits exponent
  if Decimal.Binary64.ofFloat value = .infinite false then failure else pure value

def decimal : Reader Float := do
  let negative := (← sign).getD false
  let front ← whole
  match ← attempt fraction with
  | some back =>
    let power := (← attempt exponent).getD 0
    nearest negative (valueOf 10 (front ++ back)) (power - back.length)
  | none => nearest negative (valueOf 10 front) (← exponent)

def infinityBits : UInt64 := 0x7FF0000000000000
def nanBits : UInt64 := 0x7FF8000000000000

def named : Reader Float := do
  let negative := (← sign).getD false
  let bits ←
    (do exactly ['i', 'n', 'f']; return infinityBits) <|>
    (do exactly ['n', 'a', 'n']; return nanBits)
  let value := Float.ofBits bits
  return if negative then -value else value

/-- A number of either sort; a moment is read before it is tried as a number. -/
def read : Reader Value :=
  (do return .moment (← Moment.read).text) <|>
  (do return .number (← decimal)) <|>
  (do return .number (← named)) <|>
  (do return .integer (← integer))

end StoreBench.Document.Number
