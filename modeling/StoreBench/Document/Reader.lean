import StoreBench.Text.Blank

/-!
Reading from the front of a text.

A reader takes what it recognizes from the front of a text, or fails and takes nothing; of two
alternatives the second one is tried where the first one failed.
-/

namespace StoreBench.Document

abbrev Reader (α : Type) := StateT (List Char) Option α

namespace Reader

variable {α : Type}

def oneOf (accepts : Char → Bool) : Reader Char := fun text =>
  match text with
  | c :: rest => if accepts c then some (c, rest) else none
  | [] => none

def expect (c : Char) : Reader Unit := do
  let _ ← oneOf (· == c)

def exactly : List Char → Reader Unit
  | [] => pure ()
  | c :: cs => do
    expect c
    exactly cs

def span (accepts : Char → Bool) : Reader (List Char) := fun text =>
  some (text.takeWhile accepts, text.dropWhile accepts)

def finish : Reader Unit := fun text =>
  if text.isEmpty then some ((), []) else none

/-- Takes nothing where the reader fails. -/
def attempt (item : Reader α) : Reader (Option α) :=
  (some <$> item) <|> pure none

/-- At most `room` items, one after the other, until one fails. -/
def manyUpTo (item : Reader α) : Nat → Reader (List α)
  | 0 => pure []
  | room + 1 => do
    match ← attempt item with
    | none => return []
    | some value => return value :: (← manyUpTo item room)

/-- All items up to the first failure.  An item takes at least one character, so there are no more
items than characters. -/
def many (item : Reader α) : Reader (List α) := do
  manyUpTo item (← get).length

def separated (item : Reader α) (separator : Char) : Reader (List α) := do
  let first ← item
  let rest ← many do
    expect separator
    item
  return first :: rest

def all? (reader : Reader α) (text : List Char) : Option α :=
  match reader text with
  | some (value, []) => some value
  | _ => none

def blanks : Reader Unit := do
  let _ ← span fun c => c == ' ' || c == '\t'

/-- A line feed, with or without a carriage return before it. -/
def newline : Reader Unit :=
  expect '\n' <|> exactly ['\r', '\n']

/-- A character that may stand in a line: no control character but the tab. -/
def isPrinted (c : Char) : Bool :=
  c == '\t' || (' ' ≤ c && c != '\x7f')

def comment : Reader Unit := do
  expect '#'
  let _ ← span isPrinted

def gap : Reader Unit := do
  let _ ← many
    ((do let _ ← oneOf fun c => c == ' ' || c == '\t') <|> newline <|> (do comment; newline))

/-- What may follow on a line behind a value or a heading. -/
def lineEnd : Reader Unit := do
  blanks
  let _ ← attempt comment
  newline <|> finish

end Reader

end StoreBench.Document
