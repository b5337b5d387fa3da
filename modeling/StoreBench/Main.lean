import StoreBench.Command.Console

/-!
The program: the console over the real files, the real environment and a clock that measures the
engine's calls.
-/

namespace StoreBench

open StoreBench.Engine (BuiltIn)
open StoreBench.Run (Host Usage)

namespace Program

def fileError : IO.Error → FileError
  | .noFileOrDirectory .. => .notFound
  | .alreadyExists .. => .alreadyExists
  | .inappropriateType .. => .notADirectory
  | other => .other (toString other)

def attempted {α : Type} (step : IO α) : IO (Except FileError α) := do
  try
    return .ok (← step)
  catch cause =>
    return .error (fileError cause)

/-- A call to the engine, with the time it took. -/
def call (engine : IO.Ref BuiltIn) : StoreBench.Engine IO := fun call => do
  let start ← IO.monoNanosNow
  let (answer, state) := BuiltIn.perform call (← engine.get)
  engine.set state
  let ending ← IO.monoNanosNow
  return { answer with took := answer.took + (ending - start) }

/-- The built-in engines keep nothing on disk, and the process's own counters stay unread. -/
def measure (folder : String) : IO (Except FileError Usage) :=
  attempted do
    let _ ← IO.FS.realPath folder
    return Usage.zero

def extend (path text : String) : IO Unit := do
  let file ← IO.FS.Handle.mk path .append
  file.putStr text

def host (engine : IO.Ref BuiltIn) : Host IO where
  engine := call engine
  say := IO.println
  makeFolders path := attempted (if path.isEmpty then pure () else IO.FS.createDirAll path)
  create path := attempted (IO.FS.writeFile path "")
  append path text := attempted (extend path text)
  mirror path text := do
    let _ ← attempted (extend path text)
  measure := measure

def console (engine : IO.Ref BuiltIn) : Command.Console IO where
  host := host engine
  readFile path := attempted (IO.FS.readFile path)
  install := engine.set

/-- Splits a variable of the environment at its first equals sign. -/
def variableOf (entry : String) : Option (String × String) :=
  let text := entry.toList
  match text.dropWhile (· != '=') with
  | [] => none
  | _ :: value => some (String.ofList (text.takeWhile (· != '=')), String.ofList value)

def environment : IO (List (String × String)) := do
  match ← attempted (IO.FS.readFile "/proc/self/environ") with
  | .error _ => return []
  | .ok text =>
    let entries := (Text.splitAt '\x00' text.toList).map String.ofList
    return (entries.filterMap variableOf).mergeSort fun left right => left.1 ≤ right.1

end Program

end StoreBench

def main (arguments : List String) : IO UInt32 := do
  let engine ← IO.mkRef StoreBench.Engine.BuiltIn.null
  let outcome ←
    StoreBench.Command.carryOut (StoreBench.Program.console engine)
      (← StoreBench.Program.environment) (StoreBench.Command.request arguments)
  match outcome with
  | .failed cause => IO.eprintln cause.message
  | .misused =>
    for line in StoreBench.Command.usage do
      IO.eprintln line
  | _ => pure ()
  return UInt32.ofNat outcome.code
