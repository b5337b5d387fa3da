import StoreBench.Kind

/-!
What can go wrong.

A *failure* is an answer of the program: it has a cause, and each cause has one wording.  A
*panic* is a broken assertion or an arithmetic result outside its integer type; it carries no
wording, because it ends the worker or the run that meets it.
-/

namespace StoreBench

/-- What an engine may answer instead of success.  Not finding a key is an expected answer. -/
inductive EngineError where
  | notFound
  | unsupported (what : String)
  | failed (reason : String)
  deriving DecidableEq

namespace EngineError

def message : EngineError → String
  | .notFound => "key not found"
  | .unsupported what => s!"unsupported: {what}"
  | .failed reason => reason

def unknownOption (argument : String) : EngineError :=
  .unsupported s!"option `{argument}`"

def notOneStep (kind : Kind) : EngineError :=
  .unsupported s!"{kind.name} is not a single step"

end EngineError

inductive ConfigError where
  | noKinds
  | notPositive (field : String)
  | badInterval
  | noKeys
  | noKeySpaces
  | unsplittable (period sectors : Nat)
  | domainTooLarge (spaces period : Nat)
  | keyTooShort (size total : Nat) (printable : Bool) (need : Nat)
  | spaceOutOfRange (space spaces : Nat)
  | idleWorker (worker : Nat)
  | noSecondSpace (worker : Nat) (kind : Kind)
  | unknownKind (spelling : String)
  | unknownEngine (name : String)
  | refused (reason : String)
  deriving DecidableEq

def ConfigError.message : ConfigError → String
  | .noKinds => "no benchmark kind selected"
  | .notPositive field => s!"{field} should be positive"
  | .badInterval => "interval should be a positive number of seconds"
  | .noKeys => "number of keys must be positive"
  | .noKeySpaces => "number of key spaces must be positive"
  | .unsplittable period sectors => s!"cannot split {period} keys into {sectors} sectors"
  | .domainTooLarge spaces period => s!"key space of {spaces} x {period} keys exceeds 64 bits"
  | .keyTooShort size total printable need =>
    let alphabet := if printable then "printable" else "binary"
    s!"key size {size} is too short for {total} distinct {alphabet} keys, " ++
      s!"at least {need} is required"
  | .spaceOutOfRange space spaces => s!"key space {space} is out of the {spaces} configured"
  | .idleWorker worker => s!"doer {worker} has nothing to do"
  | .noSecondSpace worker kind => s!"doer {worker} has no second key space for {kind.name}"
  | .unknownKind spelling => s!"unknown benchmark name '{spelling}'"
  | .unknownEngine name => s!"engine {name} not found in registry"
  | .refused reason => reason

inductive FileError where
  | notFound
  | alreadyExists
  | notADirectory
  | isADirectory
  | nameTooLong
  | linkLoop
  | other (reason : String)
  deriving DecidableEq

def FileError.message : FileError → String
  | .notFound => "No such file or directory (os error 2)"
  | .alreadyExists => "File exists (os error 17)"
  | .notADirectory => "Not a directory (os error 20)"
  | .isADirectory => "Is a directory (os error 21)"
  | .nameTooLong => "File name too long (os error 36)"
  | .linkLoop => "Too many levels of symbolic links (os error 40)"
  | .other reason => reason

/-- Why a settings text cannot be read as settings. -/
inductive ReadError where
  | malformed
  | noSuchShape
  | unknownKind (spelling : String)
  | wrongType
  | outOfRange
  | unknownVariant
  | missing (field : String)
  deriving DecidableEq

inductive Abort where
  | interrupted
  | panicked (worker : Nat)
  | because (reason : String)
  deriving DecidableEq

def Abort.message : Abort → String
  | .interrupted => "interrupted"
  | .panicked worker => s!"doer {worker} panicked"
  | .because reason => reason

inductive Failure where
  | config (cause : ConfigError)
  | keyNotFound (operation : String) (worker : Nat) (key : String)
  | engine (cause : EngineError)
  | file (cause : FileError)
  | settings (cause : ReadError) (path : List String)
  | aborted (cause : Abort)
  deriving DecidableEq

def Failure.message : Failure → String
  | .config cause => s!"configuration error: {cause.message}"
  | .keyNotFound operation worker key => s!"key {key} not found ({operation}, doer #{worker})"
  | .engine cause => s!"engine error: {cause.message}"
  | .file cause => s!"I/O error: {cause.message}"
  | .settings _ _ => "invalid configuration file"
  | .aborted cause => s!"run aborted: {cause.message}"

/-- A broken assertion, or a number outside its type. -/
inductive Panic where
  | overflow
  | allocation
  | duration
  -- the three assertions of a hub about its attached workers
  | overcounted
  | uncounted
  | unattached
  | engine (reason : String)
  deriving DecidableEq

/-- How a step can end before its result: with a failure to report, or with a panic. -/
inductive Stop where
  | failure (cause : Failure)
  | panic (cause : Panic)
  deriving DecidableEq

/-- The first number that 64 bits cannot hold. -/
def wordLimit : Nat := 0x10000000000000000

end StoreBench
