/-!
Byte strings as text.

A byte that is a printable ASCII character stands for itself; quotes and the backslash take a
backslash, tab, carriage return and line feed have letters, and every other byte is written with
two hexadecimal digits.
-/

namespace StoreBench.Text

def hexDigit (value : Nat) : Char :=
  if value < 10 then Char.ofNat ('0'.toNat + value) else Char.ofNat ('a'.toNat + (value - 10))

/-- Two lower-case hexadecimal digits. -/
def hexByte (byte : UInt8) : List Char :=
  [hexDigit (byte.toNat / 16), hexDigit (byte.toNat % 16)]

def escapeByte (byte : UInt8) : List Char :=
  if byte = 0x09 then ['\\', 't']
  else if byte = 0x0D then ['\\', 'r']
  else if byte = 0x0A then ['\\', 'n']
  else if byte = 0x27 || byte = 0x22 || byte = 0x5C then ['\\', Char.ofNat byte.toNat]
  else if 0x20 ≤ byte && byte ≤ 0x7E then [Char.ofNat byte.toNat]
  else '\\' :: 'x' :: hexByte byte

def escapeBytes (bytes : List UInt8) : String :=
  String.ofList (bytes.flatMap escapeByte)

def hexBytes (bytes : List UInt8) : String :=
  String.ofList (bytes.flatMap hexByte)

def hexValue? (c : Char) : Option Nat :=
  if '0' ≤ c && c ≤ '9' then some (c.toNat - '0'.toNat)
  else if 'a' ≤ c && c ≤ 'f' then some (c.toNat - 'a'.toNat + 10)
  else if 'A' ≤ c && c ≤ 'F' then some (c.toNat - 'A'.toNat + 10)
  else none

/-- The bytes that pairs of hexadecimal digits spell. -/
def readHex? : List Char → Option (List UInt8)
  | [] => some []
  | [_] => none
  | high :: low :: rest => do
    return UInt8.ofNat (16 * (← hexValue? high) + (← hexValue? low)) :: (← readHex? rest)

end StoreBench.Text
