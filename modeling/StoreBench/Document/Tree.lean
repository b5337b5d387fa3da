import StoreBench.Document.Value

/-!
Tables under construction.

What may still be added to a table depends on how it came about: a heading names a table once, and
may come after the headings of tables inside it; a dotted key adds only to tables that other dotted
keys made; a list of tables grows at its end.  A finished value takes nothing more.
-/

namespace StoreBench.Document

inductive Origin where
  | named
  | passed
  | dotted
  deriving DecidableEq

inductive Node where
  | value (value : Value)
  | table (origin : Origin) (fields : List (String × Node))
  | series (earlier : List Value) (last : List (String × Node))

/-- A table with its origin. -/
structure Branch where
  origin : Origin
  fields : List (String × Node)

namespace Branch

def root : Branch := ⟨.named, []⟩

def child? (branch : Branch) (name : String) : Option Node :=
  branch.fields.lookup name

/-- Sets a field in place of any other with its name. -/
def put (branch : Branch) (name : String) (node : Node) : Branch :=
  { branch with fields := (name, node) :: branch.fields.filter (·.1 != name) }

/-- Changes the table that a path leads to, making the tables on the way that are missing.  A way
along a dotted key must not lead through a table with a heading of its own. -/
def changeAt (isDotted : Bool) (change : Branch → Option Branch) :
    List String → Branch → Option Branch
  | [], branch => change branch
  | name :: path, branch => do
    match branch.child? name with
    | none =>
      let child ← changeAt isDotted change path ⟨if isDotted then .dotted else .passed, []⟩
      return branch.put name (.table child.origin child.fields)
    | some (.table origin fields) =>
      if isDotted && origin = .named then failure
      let child ← changeAt isDotted change path ⟨origin, fields⟩
      return branch.put name (.table child.origin child.fields)
    | some (.series earlier last) =>
      let child ← changeAt isDotted change path ⟨.named, last⟩
      return branch.put name (.series earlier child.fields)
    | some (.value _) => failure

def define (keys : List String) (value : Value) (branch : Branch) : Option Branch :=
  let path := keys.dropLast
  let add (target : Branch) : Option Branch := do
    if (target.origin == .dotted) == path.isEmpty then failure
    match keys.getLast? with
    | none => failure
    | some name =>
      match target.child? name with
      | some _ => failure
      | none => return target.put name (.value value)
  changeAt true add path branch

def openTable (keys : List String) (branch : Branch) : Option Branch :=
  let add (target : Branch) : Option Branch := do
    match keys.getLast? with
    | none => failure
    | some name =>
      match target.child? name with
      | none => return target.put name (.table .named [])
      | some (.table .passed fields) => return target.put name (.table .named fields)
      | some _ => failure
  changeAt false add keys.dropLast branch

end Branch

mutual

def Node.finished : Node → Value
  | .value value => value
  | .table _ fields => .table (finishedFields fields)
  | .series earlier last => .list (earlier ++ [.table (finishedFields last)])

def finishedFields : List (String × Node) → Table
  | [] => []
  | (name, node) :: rest => Table.put name node.finished (finishedFields rest)

end

namespace Branch

def finished (branch : Branch) : Table :=
  finishedFields branch.fields

/-- Opens another table at the end of a list of tables. -/
def openNext (keys : List String) (branch : Branch) : Option Branch :=
  let add (target : Branch) : Option Branch := do
    match keys.getLast? with
    | none => failure
    | some name =>
      match target.child? name with
      | none => return target.put name (.series [] [])
      | some (.series earlier last) =>
        return target.put name (.series (earlier ++ [.table (finishedFields last)]) [])
      | some _ => failure
  changeAt false add keys.dropLast branch

end Branch

end StoreBench.Document
