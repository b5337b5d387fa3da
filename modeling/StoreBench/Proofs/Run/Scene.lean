import StoreBench.Engine.Probe
import StoreBench.Proofs.Engine.Contents
import StoreBench.Proofs.Keys.Stretches
import StoreBench.Proofs.Latency.Charges
import StoreBench.Proofs.Latency.Ledger
import StoreBench.Proofs.Run.Triple

/-! The world around a run, as far as a run depends on it.

A host drives an ordered engine somewhere in its world.  A window shows that engine and the calls
made of it; how long a call takes, what lines are printed and which files are written is open.
What is asked of the time and of the files, so that the run succeeds, stands apart.
-/

namespace StoreBench.Engine

/-- A step on a key that was to be there reports that it is not.  A cursor at its end does not. -/
def Entry.missesKey (entry : Entry) : Bool :=
  match entry.call, entry.reply with
  | .next _ kind _, .error .notFound => kind != .iterate
  | _, _ => false

theorem Entry.missesKey_ok (call : Call) (pair : Pair) :
    (Entry.mk call (.ok pair)).missesKey = false := by
  cases call <;> rfl

end StoreBench.Engine

namespace StoreBench

def Settings.bytes (settings : Settings) : Kind → Nat
  | .set => settings.keySize + settings.valueSize
  | .get => settings.keySize + settings.valueSize
  | .iterate => settings.keySize + settings.valueSize
  | .delete => settings.keySize
  | .batch =>
    (3 * (settings.keySize + settings.valueSize) + settings.keySize) * settings.batchLength
  | .crud => 3 * (settings.keySize + settings.valueSize) + settings.keySize

def batchesFor (length left : Nat) : Nat :=
  (left + (length - 1)) / length

def Settings.charge (settings : Settings) (kind : Kind) (share : Nat) : Nat :=
  if kind = .batch then batchesFor settings.batchLength share else share

end StoreBench

namespace StoreBench.Run

open StoreBench.Engine (Answer Answers Call Entry Ordered Reply Stocked)
open StoreBench.Keys (Shape Walk)
open StoreBench.Latency (Books Paced Recorder)

variable {W : Type}

/-- What is seen of a world: its engine, the calls so far and the time that they took, and whether
the engine is heard. -/
structure Window (W : Type) where
  engine : W → Ordered
  calls : W → List Entry
  time : W → Nat
  sane : W → Prop

structure Window.Still (window : Window W) (before after : W) : Prop where
  engine : window.engine after = window.engine before
  calls : window.calls after = window.calls before
  time : window.time after = window.time before
  sane : window.sane before → window.sane after

theorem Window.Still.refl (window : Window W) (world : W) : window.Still world world :=
  ⟨rfl, rfl, rfl, id⟩

theorem Window.Still.trans {window : Window W} {first second third : W}
    (before : window.Still first second) (after : window.Still second third) :
    window.Still first third :=
  ⟨after.engine.trans before.engine, after.calls.trans before.calls,
    after.time.trans before.time, after.sane ∘ before.sane⟩

/-- The host's engine is the ordered engine in the window, uninterrupted, and nothing but calls of
the engine changes it. -/
structure Hosts (host : Host (StateM W)) (window : Window W) : Prop where
  answers : ∀ call world, window.sane world →
    (host.engine call world).1.reply = ((window.engine world).answer call).1 ∧
      (host.engine call world).1.interrupted = false ∧
      window.sane (host.engine call world).2 ∧
      window.engine (host.engine call world).2 = ((window.engine world).answer call).2 ∧
      window.calls (host.engine call world).2 =
        window.calls world ++ [⟨call, ((window.engine world).answer call).1⟩] ∧
      window.time (host.engine call world).2 =
        window.time world + (host.engine call world).1.took
  say : ∀ line world, window.Still world (host.say line world).2
  makeFolders : ∀ path world, window.Still world (host.makeFolders path world).2
  create : ∀ path world, window.Still world (host.create path world).2
  append : ∀ path text world, window.Still world (host.append path text world).2
  mirror : ∀ path text world, window.Still world (host.mirror path text world).2
  measure : ∀ path world, window.Still world (host.measure path world).2

theorem Hosts.write {host : Host (StateM W)} {window : Window W} (hosts : Hosts host window)
    (path text : String) (world : W) : window.Still world (host.write path text world).2 := by
  have created := hosts.create path world
  rw [host.write_eq]
  cases (host.create path world).1 with
  | ok done => exact created.trans (hosts.append path text _)
  | error cause => exact created

/-- Counters whose differences have 64 bits. -/
structure Usage.Modest (usage : Usage) : Prop where
  blocksRead : usage.blocksRead < 2 ^ 63
  blocksWritten : usage.blocksWritten < 2 ^ 63
  pageFaults : usage.pageFaults < 2 ^ 63
  userTime : usage.userTime < 2 ^ 63
  systemTime : usage.systemTime < 2 ^ 63
  disk : usage.disk < 2 ^ 63
  memory : usage.memory < 2 ^ 63

/-- In a world that is ready, the files that a run under this name writes can be written. -/
structure Serves (host : Host (StateM W)) (settings : Settings) (name : String)
    (ready : W → Prop) : Prop where
  engine : ∀ call world, ready world → ready (host.engine call world).2
  say : ∀ line world, ready world → ready (host.say line world).2
  makeFolders : ∀ world, ready world →
    (host.makeFolders settings.folder world).1 = .ok () ∧
      ready (host.makeFolders settings.folder world).2
  create : ∀ start ∈ settings.reports, ∀ item world, ready world →
    (host.create (Settings.reportName start name settings.durability.sync item) world).1 = .ok () ∧
      ready (host.create (Settings.reportName start name settings.durability.sync item) world).2
  write : ∀ start ∈ settings.reports, ∀ item text world, ready world →
    (host.write (Settings.reportName start name settings.durability.sync item) text world).1 =
        .ok () ∧
      ready (host.write (Settings.reportName start name settings.durability.sync item) text world).2
  mirror : ∀ path text world, ready world → ready (host.mirror path text world).2
  measure : ∀ world, ready world →
    (∃ usage, (host.measure settings.folder world).1 = .ok usage ∧ usage.Modest) ∧
      ready (host.measure settings.folder world).2

/-- A prepared run in the world of a host.  What holds only if all goes well, with the files, the
memory and the sums, is asked for only if that is `sure`. -/
structure Scene (W : Type) where
  host : Host (StateM W)
  window : Window W
  hosts : Hosts host window
  settings : Settings
  shape : Shape
  sound : shape.Sound
  keySize : shape.keySize = settings.keySize
  optionless : settings.engineOptions = []
  bounded : settings.continuous = false
  batches : settings.selected.contains .batch = true → 0 < settings.batchLength
  name : String
  ready : W → Prop
  quota : Kind → Nat
  sure : Prop
  serves : sure → Serves host settings name ready
  fits : sure → ∀ kind, quota kind < wordLimit ∧ quota kind * settings.bytes kind < wordLimit
  addressable : sure → settings.keySize + settings.valueSize < wordLimit / 2

namespace Scene

variable (scene : Scene W)

/-- All is sure to go well, and the calls so far took a time that 64 bits count. -/
def Fine (world : W) : Prop :=
  scene.sure ∧ scene.window.time world < wordLimit

/-- The engine holds the pairs at these coordinates, and never missed a key. -/
structure Holds (points : Set Nat) (world : W) : Prop where
  sane : scene.window.sane world
  clean : ∀ entry ∈ scene.window.calls world, entry.missesKey = false
  stocked : Stocked scene.shape scene.settings.valueSize points (scene.window.engine world).store
  ready : scene.sure → scene.ready world

/-- Something went wrong, but no key was missed. -/
structure Spoiled (world : W) : Prop where
  sane : scene.window.sane world
  clean : ∀ entry ∈ scene.window.calls world, entry.missesKey = false
  ready : scene.sure → scene.ready world
  unfine : ¬ scene.Fine world

/-- What a host does besides calls: it may be seen in neither the window nor the readiness. -/
structure Quiet (before after : W) : Prop where
  still : scene.window.Still before after
  ready : scene.sure → scene.ready before → scene.ready after

variable {scene} {points left : Set Nat} {world next : W}

theorem Fine.sure (fine : scene.Fine world) : scene.sure :=
  fine.1

theorem Quiet.trans {first second third : W} (before : scene.Quiet first second)
    (after : scene.Quiet second third) : scene.Quiet first third :=
  ⟨before.still.trans after.still, fun sure => after.ready sure ∘ before.ready sure⟩

theorem Quiet.fine (quiet : scene.Quiet world next) : scene.Fine next ↔ scene.Fine world := by
  unfold Fine
  rw [quiet.still.time]

theorem Holds.quiet (holds : scene.Holds points world) (quiet : scene.Quiet world next) :
    scene.Holds points next where
  sane := quiet.still.sane holds.sane
  clean := by
    rw [quiet.still.calls]
    exact holds.clean
  stocked := by
    rw [quiet.still.engine]
    exact holds.stocked
  ready sure := quiet.ready sure (holds.ready sure)

theorem Spoiled.quiet (spoiled : scene.Spoiled world) (quiet : scene.Quiet world next) :
    scene.Spoiled next where
  sane := quiet.still.sane spoiled.sane
  clean := by
    rw [quiet.still.calls]
    exact spoiled.clean
  ready sure := quiet.ready sure (spoiled.ready sure)
  unfine fine := spoiled.unfine (quiet.fine.mp fine)

theorem Holds.spoil (holds : scene.Holds points world) (unfine : ¬ scene.Fine world) :
    scene.Spoiled world :=
  ⟨holds.sane, holds.clean, holds.ready, unfine⟩

theorem Holds.call (holds : scene.Holds points world) {call : Call}
    {results : Except EngineError Pair → Prop}
    (answers : Answers scene.shape scene.settings.valueSize points call results left)
    (finds : ∀ result, results result → (Entry.mk call (.ofResult result)).missesKey = false) :
    ∃ result, (scene.host.engine call world).1.reply = .ofResult result ∧ results result ∧
      (scene.host.engine call world).1.interrupted = false ∧
      scene.window.time (scene.host.engine call world).2 =
        scene.window.time world + (scene.host.engine call world).1.took ∧
      scene.Holds left (scene.host.engine call world).2 := by
  obtain ⟨reply, uninterrupted, sane, engine, calls, time⟩ :=
    scene.hosts.answers call world holds.sane
  obtain ⟨result, replied, allowed, stocked⟩ := answers _ holds.stocked
  refine ⟨result, reply.trans replied, allowed, uninterrupted, time, sane, ?_, ?_, ?_⟩
  · intro entry member
    rw [calls] at member
    rcases List.mem_append.mp member with member | member
    · exact holds.clean entry member
    · rw [List.mem_singleton.mp member, replied]
      exact finds result allowed
  · rw [engine]
    exact stocked
  · exact fun sure => (scene.serves sure).engine call world (holds.ready sure)

theorem Spoiled.call (spoiled : scene.Spoiled world) {call : Call}
    (success : ∀ engine : Ordered, (engine.answer call).1 = .success) :
    (scene.host.engine call world).1.reply = .success ∧
      (scene.host.engine call world).1.interrupted = false ∧
      scene.Spoiled (scene.host.engine call world).2 := by
  obtain ⟨reply, uninterrupted, sane, engine, calls, time⟩ :=
    scene.hosts.answers call world spoiled.sane
  refine ⟨reply.trans (success _), uninterrupted, sane, ?_, ?_, ?_⟩
  · intro entry member
    rw [calls] at member
    rcases List.mem_append.mp member with member | member
    · exact spoiled.clean entry member
    · rw [List.mem_singleton.mp member, success]
      exact Entry.missesKey_ok call _
  · exact fun sure => (scene.serves sure).engine call world (spoiled.ready sure)
  · intro given
    obtain ⟨sure, timely⟩ := given
    rw [time] at timely
    exact spoiled.unfine ⟨sure, by omega⟩

theorem say_quiet (scene : Scene W) (line : String) (world : W) :
    scene.Quiet world (scene.host.say line world).2 :=
  ⟨scene.hosts.say line world, fun sure => (scene.serves sure).say line world⟩

theorem mirror_quiet (scene : Scene W) (path text : String) (world : W) :
    scene.Quiet world (scene.host.mirror path text world).2 :=
  ⟨scene.hosts.mirror path text world, fun sure => (scene.serves sure).mirror path text world⟩

theorem sayLines_quiet (scene : Scene W) (lines : List String) (world : W) :
    scene.Quiet world
      ((forIn lines PUnit.unit fun line (_ : PUnit) => do
        scene.host.say line
        pure (.yield PUnit.unit) : StateM W PUnit) world).2 := by
  induction lines generalizing world with
  | nil => exact ⟨.refl _ _, fun _ => id⟩
  | cons line lines ih =>
      rw [List.forIn_cons]
      exact (scene.say_quiet line world).trans (ih _)

theorem publish_quiet (scene : Scene W) (emission : Latency.Emission) (world : W) :
    scene.Quiet world (scene.host.publish emission world).2 := by
  have lines := scene.sayLines_quiet emission.text world
  unfold Host.publish
  rcases mirror : emission.mirror with _ | sink
  · exact lines
  · exact lines.trans (scene.mirror_quiet sink emission.csv _)

end Scene

end StoreBench.Run
