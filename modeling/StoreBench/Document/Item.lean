import StoreBench.Document.Number
import StoreBench.Document.Quoted
import StoreBench.Document.Tree

/-!
Keys and values as they are written.

A key is a sequence of names between dots, each bare or quoted.  Lists may run over several lines;
a table in braces may not.  Keys, and lists and tables inside one another, are at most 79 deep.
-/

namespace StoreBench.Document.Item

open Reader

/-- The greatest number of names in a key, and of lists and tables around a value. -/
def greatestDepth : Nat := 79

def isBare (c : Char) : Bool :=
  c.isAlphanum || c == '-' || c == '_'

def name : Reader String :=
  Quoted.line <|> (do
    let first ← oneOf isBare
    return String.ofList (first :: (← span isBare)))

def key : Reader (List String) := do
  let names ← separated (do blanks; let name ← name; blanks; return name) '.'
  if names.length ≤ greatestDepth then return names else failure

def scalar : Reader Value :=
  (do return .text (← Quoted.text)) <|>
  Number.read <|>
  (do exactly ['t', 'r', 'u', 'e']; return .truth true) <|>
  (do exactly ['f', 'a', 'l', 's', 'e']; return .truth false)

/-- Values between brackets; a comma may follow the last one. -/
def listOf (item : Reader Value) : Reader Value := do
  expect '['
  let items := separated (do gap; let value ← item; gap; return value) ','
  let items ← attempt do
    let items ← items
    let _ ← attempt (expect ',')
    return items
  gap
  expect ']'
  return .list (items.getD [])

def pair (item : Reader Value) : Reader (List String × Value) := do
  let names ← key
  expect '='
  blanks
  return (names, ← item)

def tableOf (item : Reader Value) : Reader Value := do
  expect '\x7b'
  let pairs ← attempt (separated (do let pair ← pair item; blanks; return pair) ',')
  blanks
  expect '\x7d'
  match (pairs.getD []).foldlM (fun branch (names, value) => branch.define names value)
      Branch.root with
  | none => failure
  | some branch => return .table branch.finished

/-- A value with at most `depth` lists and tables around its innermost parts. -/
def value : Nat → Reader Value
  | 0 => scalar
  | depth + 1 => scalar <|> listOf (value depth) <|> tableOf (value depth)

end StoreBench.Document.Item
