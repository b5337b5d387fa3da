import StoreBench.Engine.BuiltIn
import StoreBench.Settings.Basic

/-!
Engines by name.

Each registered engine has a constructor, which refuses the durability it cannot give.
-/

namespace StoreBench.Engine

/-- The ordered engine keeps nothing on disk. -/
def newOrdered (durability : Durability) : Except ConfigError BuiltIn :=
  if durability.sync = .sync then .error (.refused "btreemap cannot sync to stable storage")
  else if durability.log = .on then .error (.refused "btreemap has no write-ahead log")
  else .ok (.ordered .new)

def registry : List (String × (Durability → Except ConfigError BuiltIn)) :=
  [("btreemap", newOrdered), ("null", fun _ => .ok .null)]

def registered : List String :=
  registry.map (·.1)

def create (name : String) (durability : Durability) : Except ConfigError BuiltIn :=
  match registry.lookup name with
  | none => .error (.unknownEngine name)
  | some constructor => constructor durability

end StoreBench.Engine
