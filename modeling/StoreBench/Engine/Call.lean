import StoreBench.Error
import StoreBench.Pair

/-!
Engines as answering machines.

A run talks to an engine by calls, and an engine answers each call.  An answer says what became of
the call, how long it took, and whether an interrupt arrived meanwhile.  What an engine does in
between is its own business: a program over engines is a program over any function from calls to
answers.
-/

namespace StoreBench.Engine

/-- A call.  Calls after `newContext` name the worker's context, its transaction, cursor and
buffers. -/
inductive Call where
  | openStore (folder : String)
  | close
  | option (argument : String)
  | newContext (context : Nat)
  | contextOption (context : Nat) (argument : String)
  | begin (context : Nat) (kind : Kind)
  | next (context : Nat) (kind : Kind) (pair : Pair)
  | done (context : Nat) (kind : Kind)
  | dispose (context : Nat)
  deriving DecidableEq

/-- What became of a call.  Only `next` has a pair to return; other calls return the empty one. -/
inductive Reply where
  | ok (pair : Pair)
  | error (cause : EngineError)
  | panic (reason : String)
  deriving DecidableEq

namespace Reply

def success : Reply := .ok .empty

end Reply

structure Answer where
  reply : Reply
  took : Nat
  interrupted : Bool
  deriving DecidableEq

def Answer.instant (reply : Reply) : Answer :=
  ⟨reply, 0, false⟩

end StoreBench.Engine

namespace StoreBench

abbrev Engine (m : Type → Type) := Engine.Call → m Engine.Answer

end StoreBench
