import StoreBench.Document.Item

/-!
Documents.

A document is a sequence of lines: headings, definitions, comments and empty lines.  A definition
belongs to the table of the last heading before it, or to the document itself.
-/

namespace StoreBench.Document

open Reader

inductive Line where
  | empty
  | heading (names : List String)
  | nextHeading (names : List String)
  | definition (names : List String) (value : Value)

namespace Line

def read : Reader Line :=
  (do newline; return .empty) <|>
  (do comment; newline <|> finish; return .empty) <|>
  (do
    exactly ['[', '[']
    let names ← Item.key
    exactly [']', ']']
    lineEnd
    return .nextHeading names) <|>
  (do
    expect '['
    let names ← Item.key
    expect ']'
    lineEnd
    return .heading names) <|>
  (do
    let (names, value) ← Item.pair (Item.value Item.greatestDepth)
    lineEnd
    return .definition names value)

end Line

def lines : Reader (List Line) := do
  let _ ← attempt (expect '\uFEFF')
  blanks
  let lines ← many do
    let line ← Line.read
    blanks
    return line
  finish
  return lines

/-- A document under construction, and where its last heading leads. -/
structure Draft where
  branch : Branch
  current : List String

def Draft.add (draft : Draft) : Line → Option Draft
  | .empty => some draft
  | .heading names => do
    return { branch := ← draft.branch.openTable names, current := names }
  | .nextHeading names => do
    return { branch := ← draft.branch.openNext names, current := names }
  | .definition names value => do
    let branch ← draft.branch.changeAt false (·.define names value) draft.current
    return { draft with branch }

/-- The table that a document describes, if it is one. -/
def read? (text : String) : Option Table := do
  let lines ← lines.all? text.toList
  let draft ← lines.foldlM Draft.add ⟨.root, []⟩
  return draft.branch.finished

end StoreBench.Document
