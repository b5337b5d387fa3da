import StoreBench.Document.Item

/-!
Loosely written values.

A variable of the environment has a value without quotes in most cases: what reads as a truth
value or a number is one, and everything else is text.  Lists stand between brackets and tables
between braces, both on one level with plain text, so that separators end it.  What cannot be read
in full is text as a whole.
-/

namespace StoreBench.Document.Loose

open Reader

variable {α : Type}

def blanks : Reader Unit := do
  let _ ← span Text.isAsciiBlank

def isSeparator (c : Char) : Bool :=
  c == ',' || c == '\x7b' || c == '\x7d' || c == '[' || c == ']'

def opens (c : Char) : Bool :=
  c == '\x7b' || c == '[' || c == Quoted.double || c == Quoted.single

/-- A number with a point, digits on at least one side of it. -/
def decimal : Reader Float := do
  let negative := (← Number.sign).getD false
  let front ← span Moment.isDigit
  expect '.'
  let back ← span Moment.isDigit
  if front.isEmpty && back.isEmpty then failure
  let power ← attempt do
    let _ ← oneOf fun c => c == 'e' || c == 'E'
    let negative := (← Number.sign).getD false
    let first ← oneOf Moment.isDigit
    let size := Number.valueOf 10 (first :: (← span Moment.isDigit))
    return if negative then -(size : Int) else size
  return Decimal.ofDecimal negative (Number.valueOf 10 (front ++ back))
    (power.getD 0 - back.length)

def integer : Reader Int := do
  let negative := (← Number.sign).getD false
  let first ← oneOf Moment.isDigit
  let size := Number.valueOf 10 (first :: (← span Moment.isDigit))
  let value : Int := if negative then -(size : Int) else size
  if -0x8000000000000000 ≤ value && value < 0x10000000000000000 then return value else failure

def plain : Reader Value := do
  if (← get).head?.any opens then failure
  let text := Text.trimChars (← span fun c => !isSeparator c)
  match decimal.all? text with
  | some value => return .number value
  | none =>
    match integer.all? text with
    | some value => return .integer value
    | none => return .text (String.ofList text)

/-- At most `room` items and the closing character; a comma may follow the last item. -/
def itemsUpTo (item : Reader α) (close : Char) : Nat → Reader (List α)
  | 0 => failure
  | room + 1 =>
    (do expect close; return []) <|> (do
      let first ← item
      (do expect ','; return first :: (← itemsUpTo item close room)) <|>
        (do expect close; return [first]))

def items (item : Reader α) (close : Char) : Reader (List α) := do
  itemsUpTo item close ((← get).length + 1)

def field (value : Reader Value) : Reader (String × Value) := do
  blanks
  let name ←
    Quoted.doubled <|> (do
      let first ← oneOf Item.isBare
      return String.ofList (first :: (← span Item.isBare)))
  blanks
  expect '='
  return (name, ← value)

/-- A value with blanks around it and fewer than `depth` lists and tables inside one another. -/
def value : Nat → Reader Value
  | 0 => failure
  | depth + 1 => do
    blanks
    let value ←
      (do exactly ['t', 'r', 'u', 'e']; return .truth true) <|>
      (do exactly ['f', 'a', 'l', 's', 'e']; return .truth false) <|>
      (do
        expect '\x7b'
        let fields ← items (field (value depth)) '\x7d'
        return .table (fields.foldl (fun table (name, value) => Table.put name value table) [])) <|>
      (do
        expect '['
        return .list (← items (value depth) ']')) <|>
      (do return .text (← Quoted.doubled)) <|>
      (do
        expect Quoted.single
        let c ← oneOf fun _ => true
        expect Quoted.single
        return .character c) <|>
      plain
    blanks
    return value

/-- Every list and table takes a character to open, which bounds their depth. -/
def read (text : String) : Value :=
  ((value (text.length + 1)).all? text.toList).getD (.text text)

end StoreBench.Document.Loose
