import StoreBench.Text.Blank

/-!
Workload kinds and sets of them.

A kind has one name and up to one alias; reading a name ignores blanks around it and the case of
its ASCII letters.  A set of kinds is six bits, and its elements are always listed in the order in
which a worker runs them.
-/

namespace StoreBench

/-- A workload shape.  The order of declaration is the order in which a worker runs its kinds. -/
inductive Kind where
  | set
  | get
  | iterate
  | delete
  | batch
  | crud
  deriving DecidableEq

namespace Kind

def all : List Kind := [.set, .get, .iterate, .delete, .batch, .crud]

def index : Kind → Fin 6
  | .set => 0
  | .get => 1
  | .iterate => 2
  | .delete => 3
  | .batch => 4
  | .crud => 5

theorem index_injective {a b : Kind} (same : a.index = b.index) : a = b := by
  revert same
  cases a <;> cases b <;> decide

theorem mem_all (kind : Kind) : kind ∈ all := by
  cases kind <;> decide

def name : Kind → String
  | .set => "set"
  | .get => "get"
  | .iterate => "iter"
  | .delete => "del"
  | .batch => "batch"
  | .crud => "crud"

/-- Every spelling that stands for a kind, in lower case. -/
def spellings : List (String × Kind) :=
  [("set", .set), ("get", .get), ("iter", .iterate), ("iterate", .iterate), ("del", .delete),
   ("delete", .delete), ("batch", .batch), ("crud", .crud), ("transact", .crud)]

/-- Reads a name or an alias, blanks around it and letter case aside. -/
def read? (text : String) : Option Kind :=
  spellings.lookup (Text.lower (Text.trim text))

end Kind

/-- A set of kinds, one bit for each. -/
structure KindSet where
  bits : BitVec 6
  deriving DecidableEq

namespace KindSet

def empty : KindSet := ⟨0⟩

def contains (kinds : KindSet) (kind : Kind) : Bool :=
  kinds.bits.getLsb kind.index

def insert (kinds : KindSet) (kind : Kind) : KindSet :=
  ⟨kinds.bits ||| BitVec.twoPow 6 kind.index⟩

def ofList (kinds : List Kind) : KindSet :=
  kinds.foldl insert empty

def toList (kinds : KindSet) : List Kind :=
  Kind.all.filter kinds.contains

def isEmpty (kinds : KindSet) : Bool :=
  kinds.bits == 0

def inter (left right : KindSet) : KindSet :=
  ⟨left.bits &&& right.bits⟩

def diff (left right : KindSet) : KindSet :=
  ⟨left.bits &&& ~~~right.bits⟩

def meets (left right : KindSet) : Bool :=
  !(left.inter right).isEmpty

/-- Kinds that read existing keys. -/
def reading : KindSet := ofList [.get, .iterate, .batch, .crud]

/-- Kinds that change the store. -/
def writing : KindSet := ofList [.set, .delete, .batch, .crud]

/-- Kinds that need a second, independent key space. -/
def pairing : KindSet := ofList [.batch, .crud]

/-- The names in running order, between braces. -/
def text (kinds : KindSet) : String :=
  "\x7b" ++ ", ".intercalate (kinds.toList.map Kind.name) ++ "\x7d"

end KindSet

structure PerKind (α : Type) where
  cells : Vector α 6

namespace PerKind

variable {α : Type}

def replicate (value : α) : PerKind α :=
  ⟨Vector.replicate 6 value⟩

def get (table : PerKind α) (kind : Kind) : α :=
  table.cells[kind.index]

def set (table : PerKind α) (kind : Kind) (value : α) : PerKind α :=
  ⟨table.cells.set kind.index value⟩

def map {β : Type} (f : α → β) (table : PerKind α) : PerKind β :=
  ⟨table.cells.map f⟩

@[simp] theorem get_replicate (value : α) (kind : Kind) :
    (replicate value).get kind = value := by
  simp [replicate, get]

@[simp] theorem get_map {β : Type} (f : α → β) (table : PerKind α) (kind : Kind) :
    (table.map f).get kind = f (table.get kind) := by
  simp [map, get]

@[simp] theorem get_set_self (table : PerKind α) (kind : Kind) (value : α) :
    (table.set kind value).get kind = value := by
  simp [set, get]

theorem get_set_of_ne (table : PerKind α) {kind other : Kind} (value : α)
    (different : kind ≠ other) : (table.set kind value).get other = table.get other := by
  have apart : (kind.index : Nat) ≠ other.index := fun same =>
    different (Kind.index_injective (Fin.ext same))
  simp [set, get, apart]

end PerKind

end StoreBench
