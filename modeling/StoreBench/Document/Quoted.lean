import StoreBench.Document.Reader
import StoreBench.Text.Escaped

/-!
Quoted text.

Text in double quotes has escapes; text in single quotes stands for itself.  Three quotes open a
text of several lines: a line end right behind them is skipped, a carriage return before a line
feed is dropped, and up to two quotes may stand anywhere, also right before the closing ones.
-/

namespace StoreBench.Document.Quoted

open Reader

def double : Char := '\x22'

def single : Char := '\x27'

def hexNumber (value : Nat) : Nat → Reader Nat
  | 0 => pure value
  | count + 1 => do
    let c ← oneOf fun _ => true
    match Text.hexValue? c with
    | none => failure
    | some digit => hexNumber (16 * value + digit) count

/-- The character with a code point; surrogates have none. -/
def codePoint (count : Nat) : Reader Char := do
  let code ← hexNumber 0 count
  if code.isValidChar then return Char.ofNat code else failure

def escape : Reader Char := do
  expect '\\'
  match ← oneOf fun _ => true with
  | 'b' => return '\x08'
  | 't' => return '\t'
  | 'n' => return '\n'
  | 'f' => return '\x0c'
  | 'r' => return '\r'
  | '\\' => return '\\'
  | '\x22' => return double
  | 'u' => codePoint 4
  | 'U' => codePoint 8
  | _ => failure

/-- A character that stands for itself in double quotes. -/
def plain : Reader Char :=
  oneOf fun c => isPrinted c && c != double && c != '\\'

def literal : Reader Char :=
  oneOf fun c => isPrinted c && c != single

def between (quote : Char) (item : Reader Char) : Reader String := do
  expect quote
  let content ← many item
  expect quote
  return String.ofList content

def doubled : Reader String :=
  between double (plain <|> escape)

def line : Reader String :=
  doubled <|> between single literal

/-- A backslash at the end of a line drops the line end and all blanks and line ends after it. -/
def continued : Reader Unit := do
  expect '\\'
  blanks
  newline
  let _ ← many ((do let _ ← oneOf fun c => c == ' ' || c == '\t') <|> newline)

def block (quote : Char) (piece : Reader (List Char)) : Reader String := do
  exactly [quote, quote, quote]
  let _ ← attempt newline
  let content ← many
    (piece <|> (do newline; return ['\n']) <|>
      (do
        let quotes ← span (· == quote)
        if 1 ≤ quotes.length && quotes.length ≤ 2 then return quotes else failure))
  let quotes ← span (· == quote)
  if 3 ≤ quotes.length && quotes.length ≤ 5 then
    return String.ofList (content.flatten ++ quotes.drop 3)
  else failure

def lines : Reader String :=
  block double ((do return [← plain]) <|> (do continued; return []) <|> (do return [← escape])) <|>
  block single (do return [← literal])

/-- Quoted text of either form.  Three quotes never open a text of one line. -/
def text : Reader String :=
  lines <|> line

end StoreBench.Document.Quoted
