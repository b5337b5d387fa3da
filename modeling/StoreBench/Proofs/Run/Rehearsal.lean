import StoreBench.Proofs.Run.Scene
import StoreBench.Run.Sandbox

/-! Runs in memory.

A sandbox whose probe injects no faults, over the ordered engine, is a host as a run needs it: the
log of the probe shows the calls and the time that they took.
-/

namespace StoreBench.Engine

/-- The time that a call takes, if all steps take the same. -/
def Costs.of (costs : Costs) : Call → Nat
  | .begin _ _ => costs.begin
  | .next _ _ _ => costs.next.headD 0
  | .done _ _ => costs.done
  | _ => 0

namespace Probe

variable {probe : Probe BuiltIn} {engine : Ordered} {call : Call}

theorem charge_even {σ : Type} (probe : Probe σ) (even : probe.costs.next.length ≤ 1)
    (call : Call) :
    ∃ steps, probe.charge call = (probe.costs.of call, { probe with steps }) := by
  cases call with
  | next context kind pair =>
      refine ⟨_, Prod.ext ?_ rfl⟩
      rcases priced : probe.costs.next with _ | ⟨cost, _ | _⟩
      · simp [charge, Costs.of, priced]
      · simp [charge, Costs.of, priced, Nat.mod_one]
      · simp [priced] at even
  | _ => exact ⟨_, rfl⟩

/-- Without faults, the ordered engine answers, and the log shows it. -/
theorem perform_ordered (even : probe.costs.next.length ≤ 1) (faultless : probe.faults = [])
    (holds : probe.engine = .ordered engine) (call : Call) :
    ∃ steps, perform BuiltIn.perform call probe =
      (⟨(engine.answer call).1, probe.costs.of call, false⟩,
        { probe with
          engine := .ordered (engine.answer call).2
          steps
          log := ⟨call, (engine.answer call).1⟩ :: probe.log }) := by
  obtain ⟨steps, charged⟩ := probe.charge_even even call
  refine ⟨steps, ?_⟩
  unfold perform
  rw [charged]
  simp only [trigger, faultless, List.find?_nil, List.map_nil, Option.map_none, BuiltIn.perform,
    BuiltIn.answer, holds, Answer.instant]
  rcases replied : (engine.answer call).1 with pair | cause | reason
  · rfl
  · rfl
  · exact absurd replied (engine.answer_ne_panic call reason)

end Probe

end StoreBench.Engine

namespace StoreBench.Run

open StoreBench.Engine (BuiltIn Call Costs Ordered Probe)

namespace Sandbox

/-- What the probe shows. -/
def window (costs : Costs) : Window (Sandbox (Probe BuiltIn)) where
  engine sandbox :=
    match sandbox.engine.engine with
    | .ordered engine => engine
    | .null => .new
  calls sandbox := sandbox.engine.calls
  time sandbox := (sandbox.engine.log.map fun entry => costs.of entry.call).sum
  sane sandbox :=
    sandbox.engine.faults = [] ∧ sandbox.engine.costs = costs ∧
      ∃ engine, sandbox.engine.engine = .ordered engine

theorem changeFiles_engine {σ : Type}
    (change : Files String → Except FileError (Files String)) (sandbox : Sandbox σ) :
    (changeFiles change sandbox).2.engine = sandbox.engine := by
  unfold changeFiles
  split
  · rfl
  · rfl

theorem window_still {costs : Costs} {before after : Sandbox (Probe BuiltIn)}
    (same : after.engine = before.engine) : (window costs).Still before after where
  engine := by simp only [window, same]
  calls := by simp only [window, same]
  time := by simp only [window, same]
  sane := by simp only [window, same, imp_self]

theorem probed_hosts {costs : Costs} (even : costs.next.length ≤ 1) :
    Hosts probed (window costs) where
  answers := by
    intro call sandbox given
    obtain ⟨faultless, priced, engine, holds⟩ := given
    rw [← priced] at even
    obtain ⟨steps, performed⟩ := Probe.perform_ordered even faultless holds call
    have answered : probed.engine call sandbox =
        ((Probe.perform BuiltIn.perform call sandbox.engine).1,
          { sandbox with engine := (Probe.perform BuiltIn.perform call sandbox.engine).2 }) := rfl
    rw [answered, performed]
    have heard : (window costs).engine sandbox = engine := by simp only [window, holds]
    rw [heard]
    refine ⟨rfl, rfl, ⟨faultless, priced, _, rfl⟩, rfl, List.reverse_cons, ?_⟩
    dsimp only [window]
    rw [List.map_cons, List.sum_cons, Nat.add_comm, priced]
  say _ _ := window_still rfl
  makeFolders _ sandbox := window_still (changeFiles_engine _ sandbox)
  create _ sandbox := window_still (changeFiles_engine _ sandbox)
  append _ _ sandbox := window_still (changeFiles_engine _ sandbox)
  mirror path text sandbox := by
    have same : (appendTo path text sandbox).2.engine = sandbox.engine :=
      changeFiles_engine _ sandbox
    exact window_still same
  measure _ _ := window_still rfl

theorem read_fresh (path : String) :
    ∃ cause, (Files.fresh : Files String).read path = .error cause := by
  unfold Files.read
  rcases (Files.fresh : Files String).locate path true with cause | location
  · exact ⟨cause, rfl⟩
  · have folders (content : String) : Files.fresh.node? location ≠ some (.file content) := by
      intro file
      unfold Files.node? at file
      split at file
      · cases file
      · simp only [Files.fresh, List.lookup_cons, List.lookup_nil] at file
        split at file
        · cases file
        · split at file
          · cases file
          · cases file
    rcases found : (Files.fresh : Files String).node? location with _ | _ | content | target
    · exact ⟨.notFound, by simp [bind, Except.bind, found]; rfl⟩
    · exact ⟨.isADirectory, by simp [bind, Except.bind, found]; rfl⟩
    · exact absurd found (folders content)
    · exact ⟨.isADirectory, by simp [bind, Except.bind, found]; rfl⟩

theorem walk_fresh (followLast : Bool) :
    (Files.fresh : Files String).walk followLast 40 [] ["tmp"] = .ok ["tmp"] := by
  have short : ¬ 255 < "tmp".utf8ByteSize := by decide
  have found : (Files.fresh : Files String).node? ["tmp"] = some .folder := rfl
  rw [Files.walk, if_neg (by decide), if_neg (by decide), if_neg short]
  dsimp only [List.nil_append]
  rw [found]
  exact Files.walk.eq_1 ..

theorem makeFolders_fresh : (Files.fresh : Files String).makeFolders "/tmp" = .ok .fresh := by
  have parts : components "/tmp" = ["", "tmp"] := by decide
  have start : (Files.fresh : Files String).startOf "/tmp" = [] := by decide
  have found : (Files.fresh : Files String).node? ["tmp"] = some .folder := rfl
  rw [Files.makeFolders, parts, start, Files.makeFoldersFrom, if_pos (by decide),
    Files.makeFoldersFrom, if_neg (by decide), if_neg (by decide), walk_fresh]
  dsimp only
  rw [found]
  rfl

theorem usage_fresh :
    (Files.fresh : Files String).usage String.utf8ByteSize "/tmp" = .ok 0 := by
  have parts : components "/tmp" = ["", "tmp"] := by decide
  have start : (Files.fresh : Files String).startOf "/tmp" = [] := by decide
  have located : (Files.fresh : Files String).locate "/tmp" false = .ok ["tmp"] := by
    rw [Files.locate, if_neg (by decide), parts, start, Files.walk, if_pos (by decide), walk_fresh]
  rw [Files.usage, located]
  rfl

theorem probed_serves {settings : Settings} (inside : settings.folder = "/tmp")
    (unreported : settings.reports = none) (name : String) :
    Serves probed settings name fun sandbox => sandbox.files = .fresh where
  engine _ _ ready := ready
  say _ _ ready := ready
  makeFolders := by
    intro sandbox ready
    rw [inside]
    change (changeFiles (·.makeFolders "/tmp") sandbox).1 = .ok () ∧
      (changeFiles (·.makeFolders "/tmp") sandbox).2.files = .fresh
    rw [changeFiles, ready, makeFolders_fresh]
    exact ⟨rfl, rfl⟩
  create := by
    intro start wanted
    rw [unreported] at wanted
    cases wanted
  write := by
    intro start wanted
    rw [unreported] at wanted
    cases wanted
  mirror := by
    intro path text sandbox ready
    change (appendTo path text sandbox).2.files = .fresh
    obtain ⟨cause, absent⟩ := read_fresh path
    rw [appendTo, changeFiles, ready, absent]
    exact ready
  measure := by
    intro sandbox ready
    refine ⟨⟨.zero, ?_, by constructor <;> decide⟩, ready⟩
    dsimp only [probed, host]
    rw [ready, inside, usage_fresh]
    rfl

end Sandbox

end StoreBench.Run
