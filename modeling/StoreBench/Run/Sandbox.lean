import StoreBench.Engine.Probe
import StoreBench.Run.Files
import StoreBench.Run.Runner

/-!
A run in memory: a console that collects lines, a tree of text files, and an engine behind a
probe.
-/

namespace StoreBench.Run

open StoreBench.Engine (BuiltIn Probe)

/-- An engine with states in `σ`, the lines said so far, the last one first, and the files. -/
structure Sandbox (σ : Type) where
  engine : σ
  said : List String
  files : Files String

namespace Sandbox

variable {σ : Type}

def new (engine : σ) (files : Files String) : Sandbox σ :=
  { engine, said := [], files }

def takeLines (sandbox : Sandbox σ) : List String × Sandbox σ :=
  (sandbox.said.reverse, { sandbox with said := [] })

/-- Applies a change to the files, which stay as they are if it fails. -/
def changeFiles (change : Files String → Except FileError (Files String)) :
    StateM (Sandbox σ) (Except FileError Unit) := fun sandbox =>
  match change sandbox.files with
  | .ok files => (.ok (), { sandbox with files })
  | .error cause => (.error cause, sandbox)

def appendTo (path text : String) : StateM (Sandbox σ) (Except FileError Unit) :=
  changeFiles fun files => do
    let old ← files.read path
    files.create path (old ++ text)

def host (engine : Engine (StateM σ)) : Host (StateM (Sandbox σ)) where
  engine call := fun sandbox =>
    let (answer, state) := engine call sandbox.engine
    (answer, { sandbox with engine := state })
  say line := modify fun sandbox => { sandbox with said := line :: sandbox.said }
  makeFolders path := changeFiles (·.makeFolders path)
  create path := changeFiles (·.create path "")
  append path text := appendTo path text
  mirror path text := do
    let _ ← appendTo path text
  measure path := fun sandbox =>
    (match sandbox.files.usage String.utf8ByteSize path with
      | .ok bytes => .ok { Usage.zero with disk := bytes }
      | .error cause => .error cause, sandbox)

def probed : Host (StateM (Sandbox (Probe BuiltIn))) :=
  host (Probe.perform BuiltIn.perform)

end Sandbox

end StoreBench.Run
