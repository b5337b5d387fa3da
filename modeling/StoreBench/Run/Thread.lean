/-!
The threads that workers run on.

A thread has a name and may be pinned to a core; cores are numbered around and around, so that
every number names one.  A thread breaks down when its work does, and joining it tells.
-/

namespace StoreBench.Run

structure Thread where
  name : String
  core : Option Nat
  breaks : Bool

namespace Thread

def coreOf {α : Type} (cores : List α) (number : Nat) : Option α :=
  cores[number % cores.length]?

def canStart (thread : Thread) : Bool :=
  !thread.name.toList.contains '\x00'

/-- Whether the thread ended well.  Being pinned, or not, changes nothing of that. -/
def joins (thread : Thread) : Bool :=
  !thread.breaks

end Thread

end StoreBench.Run
