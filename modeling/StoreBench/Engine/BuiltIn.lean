import StoreBench.Engine.Call
import StoreBench.Engine.Store

/-!
The engines that come with the program.

The null engine does nothing, to measure the cost of the measurement itself: every step succeeds,
`get` finds every key with an empty value, and a cursor is always exhausted.  The ordered engine
keeps its pairs in memory, one store for all contexts; it supports no options, and its
transactions are not isolated.
-/

namespace StoreBench.Engine

/-- The ordered engine: its store, and the last key returned by each context's cursor. -/
structure Ordered where
  store : Store
  cursors : List (Nat × Bytes)

namespace Ordered

def new : Ordered := ⟨.empty, []⟩

def cursor? (engine : Ordered) (context : Nat) : Option Bytes :=
  engine.cursors.lookup context

def clearCursor (engine : Ordered) (context : Nat) : Ordered :=
  { engine with cursors := engine.cursors.filter (·.1 != context) }

def setCursor (engine : Ordered) (context : Nat) (key : Bytes) : Ordered :=
  { engine with cursors := (context, key) :: (engine.clearCursor context).cursors }

/-- One step.  A cursor returns the least pair above the one it returned last, in the store as it
is at that moment. -/
def step (engine : Ordered) (context : Nat) (kind : Kind) (pair : Pair) : Reply × Ordered :=
  match kind with
  | .set => (.ok pair, { engine with store := engine.store.insert pair })
  | .delete =>
    match engine.store.find? pair.key with
    | some _ => (.ok pair, { engine with store := engine.store.erase pair.key })
    | none => (.error .notFound, engine)
  | .get =>
    match engine.store.find? pair.key with
    | some value => (.ok ⟨pair.key, value⟩, engine)
    | none => (.error .notFound, engine)
  | .iterate =>
    let found :=
      match engine.cursor? context with
      | none => engine.store.least?
      | some key => engine.store.leastAbove? key
    match found with
    | some found => (.ok found, engine.setCursor context found.key)
    | none => (.error .notFound, engine)
  | .batch => (.error (.notOneStep .batch), engine)
  | .crud => (.error (.notOneStep .crud), engine)

def answer (engine : Ordered) : Call → Reply × Ordered
  | .openStore _ => (.success, engine)
  | .close => (.success, engine)
  | .option argument => (.error (.unknownOption argument), engine)
  | .newContext context => (.success, engine.clearCursor context)
  | .contextOption _ argument => (.error (.unknownOption argument), engine)
  | .begin context kind =>
    (.success, if kind = .iterate then engine.clearCursor context else engine)
  | .next context kind pair => engine.step context kind pair
  | .done context kind =>
    (.success, if kind = .iterate then engine.clearCursor context else engine)
  | .dispose context => (.success, engine.clearCursor context)

end Ordered

/-- The null engine has no state. -/
def nullReply : Call → Reply
  | .next _ .iterate _ => .error .notFound
  | .next _ .get pair => .ok ⟨pair.key, []⟩
  | .next _ _ pair => .ok pair
  | _ => .success

inductive BuiltIn where
  | null
  | ordered (engine : Ordered)

namespace BuiltIn

def contents : BuiltIn → List Pair
  | .null => []
  | .ordered engine => engine.store.toList

def size : BuiltIn → Nat
  | .null => 0
  | .ordered engine => engine.store.size

def answer (engine : BuiltIn) (call : Call) : Reply × BuiltIn :=
  match engine with
  | .null => (nullReply call, .null)
  | .ordered engine =>
    let (reply, engine) := engine.answer call
    (reply, .ordered engine)

/-- A built-in engine takes no time of its own and is never interrupted. -/
def perform : Engine (StateM BuiltIn) := fun call engine =>
  let (reply, engine) := engine.answer call
  (.instant reply, engine)

end BuiltIn

end StoreBench.Engine
