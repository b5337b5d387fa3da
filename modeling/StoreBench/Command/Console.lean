import StoreBench.Command.Arguments
import StoreBench.Run.Sandbox
import StoreBench.Settings.Configuration

/-!
Requests carried out.

A benchmark reads two files, the engine's and the settings', as one document; the options of the
command line come after those of the document.  The outcome of a request decides the exit code.
-/

namespace StoreBench.Command

open StoreBench.Run (Host Turns)

structure Console (m : Type → Type) where
  host : Host m
  readFile : String → m (Except FileError String)
  install : Engine.BuiltIn → m Unit

inductive Outcome where
  | success
  | failed (cause : Failure)
  | misused
  | broken (cause : Panic)
  deriving DecidableEq

namespace Outcome

def ofStop : Stop → Outcome
  | .failure cause => .failed cause
  | .panic cause => .broken cause

def code : Outcome → Nat
  | .success => 0
  | .failed _ => 1
  | .misused => 2
  | .broken _ => 101

def complaint? : Outcome → Option String
  | .failed cause => some cause.message
  | _ => none

end Outcome

section

variable {m : Type → Type} [Monad m] (console : Console m)

/-- The configuration that two files and the environment describe. -/
def readConfiguration (environment : List (String × String)) (engineFile settingsFile : String) :
    m (Except Failure Configuration) := do
  match ← console.readFile engineFile with
  | .error cause => return .error (.file cause)
  | .ok engineText =>
    match ← console.readFile settingsFile with
    | .error cause => return .error (.file cause)
    | .ok settingsText =>
      return Configuration.read (engineText ++ "\n" ++ settingsText) environment

/-- Runs a benchmark from its configuration to its reports. -/
def runBenchmark (configuration : Configuration) (options : List String) : m Outcome := do
  let settings :=
    { configuration.settings with
      engineOptions := configuration.settings.engineOptions ++ options }
  match Run.prepareEngine configuration.engine settings 0 with
  | .error stop => return .ofStop stop
  | .ok (engine, prepared) =>
    console.install engine
    let turns := Turns.inOrder prepared.plan.workers
    let (result, _) ←
      (Run.runAll console.host configuration.engine prepared turns).run prepared.shared
    match result with
    | .ok _ => return .success
    | .error stop => return .ofStop stop

def sayLines : List String → m Unit
  | [] => pure ()
  | line :: lines => do
    console.host.say line
    sayLines lines

def carryOut (environment : List (String × String)) : Request → m Outcome
  | .bench engineFile settingsFile options => do
    match ← readConfiguration console environment engineFile settingsFile with
    | .error cause => return .failed cause
    | .ok configuration => runBenchmark console configuration options
  | .list => do
    sayLines console (Engine.registered.map ("Registered engine: " ++ ·))
    return .success
  | .help => do
    sayLines console usage
    return .success
  | .version => do
    sayLines console ["storebench 0.1.0"]
    return .success
  | .misuse => return .misused

end

def sandboxed : Console (StateM (Run.Sandbox Engine.BuiltIn)) where
  host := Run.Sandbox.host Engine.BuiltIn.perform
  readFile path := fun sandbox => (sandbox.files.read path, sandbox)
  install engine := modify fun sandbox => { sandbox with engine }

end StoreBench.Command
