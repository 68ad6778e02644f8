import Passthrough.Proofs.Session.Reports
import Passthrough.Proofs.Session.StartReflection
import Passthrough.Proofs.Session.StartReports

set_option autoImplicit false

/-! Failures and the errors in the log, on a simulated machine with any gate in front of it. A failure
of a running session is always reported, and calls to the firmware report nothing else as an
error. A start that fails is silent about some of its steps, so that an error in the log
proves a failure, but a clean log does not prove that there was none. -/

namespace Passthrough

open Files (FileTree)

variable {World α : Type}

def Result.Fails (result : Result α) : Prop :=
  ∃ failure, result = .error failure

/-- The log only grew, and something is known of whether an error was added. -/
def Traced.Grown (start ended : Traced World) (known : Prop → Prop) : Prop :=
  ∃ lines, ended.log = start.log ++ lines ∧ known (∃ line ∈ lines, line.severity = .error)

theorem Diagnostic.alarming_iff {lines : List Diagnostic} :
    alarming lines = true ↔ ∃ line ∈ lines, line.severity = .error := by
  simp [alarming]

theorem Result.isSome_failure?_iff {result : Result α} :
    result.failure?.isSome = true ↔ result.Fails := by
  cases result with
  | ok value => exact ⟨nofun, nofun⟩
  | error failure => exact ⟨fun _ => ⟨failure, rfl⟩, fun _ => rfl⟩

theorem Logged.Notes.grown {action : Logged World α} {start : Traced World}
    {after : α → World → Bool → Prop} {known : Prop → Prop}
    (notes : action.Notes start.world after)
    (implied : ∀ alarm, after (action start).1 (action start).2.world alarm →
      known (alarm = true)) : start.Grown (action start).2 known := by
  obtain ⟨lines, added, ended⟩ := notes start.log
  refine ⟨lines, added, ?_⟩
  rw [← propext Diagnostic.alarming_iff]
  exact implied _ ended

def Logged.Tells {Rest : Type} (action : Logged World (Result α × Rest)) (start : Traced World) :
    Prop :=
  start.Grown (action start).2 (· ↔ (action start).1.1.Fails)

theorem Logged.Notes.tells {Rest : Type} {action : Logged World (Result α × Rest)}
    {start : Traced World}
    (notes : action.Notes start.world fun ended _ alarm => alarm = ended.1.failure?.isSome) :
    action.Tells start := by
  refine notes.grown ?_
  rintro _ rfl
  exact Result.isSome_failure?_iff

/-- A start reports a failure exactly if it is not one of those that it is silent about. -/
theorem Platform.Silent.start_grown {Portal : Type} {platform : Platform World Portal}
    (silent : platform.Silent) (pool : Pool) (container : ContainerName) (start : Traced World) :
    let ended := (Session.start platform pool container).outcome start
    let noted := (Session.start platform.journaled pool container).outcome
      ⟨.opened start.world, start.log⟩
    noted.1 = ended.1 ∧ noted.2.viewed Journal.world = ended.2 ∧
      start.Grown ended.2 (· ↔ ∃ failure, ended.1 = .error failure ∧
        ¬ Session.Unreported noted.2.world.asked failure) := by
  intro ended noted
  have mirrored : ended = (noted.1, noted.2.viewed Journal.world) :=
    Session.start_mirrors platform pool container ⟨.opened start.world, start.log⟩
  have diagnosed := silent.start_diagnoses pool container (.opened start.world)
  obtain ⟨lines, added, known, -⟩ := diagnosed start.log
  rw [mirrored]
  refine ⟨rfl, rfl, lines, added, ?_⟩
  rw [← propext Diagnostic.alarming_iff]
  exact known

/-- Errors in the log tell of failures. Asking for the status, resetting and both ways with the time
add an error exactly if they fail, and a load adds one if it fails. A start adds one exactly
if it fails for another reason than those that it is silent about, which the calls that were made
show; writing these down changes neither what it comes to nor what it reports. -/
theorem errors_tell_of_failures (gate : Gate) (files : FileTree) (start : Traced Simulator) :
    let platform := gate.inFront (Simulator.platform files)
    (∀ session : Session HostAddress,
      (session.status platform).Tells start ∧
      (session.reset platform).Tells start ∧
      (session.timeOfDay platform).Tells start ∧
      (∀ time, (session.setTimeOfDay platform time).Tells start) ∧
      ∀ found request,
        let ended := session.load platform found request start
        start.Grown ended.2 fun alarm => ended.1.1.Fails → alarm) ∧
    ∀ pool container,
      let ended := (Session.start platform pool container).outcome start
      let noted := (Session.start platform.journaled pool container).outcome
        ⟨.opened start.world, start.log⟩
      noted.1 = ended.1 ∧ noted.2.viewed Journal.world = ended.2 ∧
        start.Grown ended.2 (· ↔ ∃ failure, ended.1 = .error failure ∧
          ¬ Session.Unreported noted.2.world.asked failure) := by
  intro platform
  have silent : platform.Silent := gate.silent_inFront (Simulator.silent_platform files)
  refine ⟨fun session => ⟨?_, ?_, ?_, ?_, ?_⟩, ?_⟩
  · exact (silent.status_notes session start.world).tells
  · exact (silent.reset_notes session start.world).tells
  · exact (silent.timeOfDay_notes session start.world).tells
  · exact fun time => (silent.setTimeOfDay_notes session time start.world).tells
  · intro found request
    refine (silent.load_notes session found request start.world).grown ?_
    intro alarm known failed
    exact known (Result.isSome_failure?_iff.mpr failed)
  · exact fun pool container => silent.start_grown pool container start

/-- A container that the machine does not know: the start fails, with neither a warning nor an error. -/
theorem an_unknown_container_is_not_reported :
    let start : Traced Simulator := ⟨Simulator.empty Tile.fresh, []⟩
    let ended := (Session.start (Simulator.platform ⟨[], []⟩) (Pool.empty .standard)
      .standard).outcome start
    ended.1.failure? = some (.kernel "read iommu_group link" (.numbered .noEntry)) ∧
      ended.1.Fails ∧ ¬ start.Grown ended.2 fun alarm => alarm := by
  intro start ended
  have failure : ended.1.failure? =
      some (.kernel "read iommu_group link" (.numbered .noEntry)) := by decide +kernel
  have nothing : ended.2.log = [] := by decide +kernel
  refine ⟨failure, ?_, ?_⟩
  · rw [← Result.isSome_failure?_iff, failure]
    rfl
  · rintro ⟨lines, added, line, member, -⟩
    rw [nothing] at added
    cases (List.append_eq_nil_iff.mp added.symm).2
    cases member

end Passthrough
