import Passthrough.Proofs.Session.InUse

set_option autoImplicit false

/-! The course of the tool on any platform. A session is started, the task is done with it, and it
is torn down again, whatever came of the task. The first failure of the three is reported;
and what is printed is what came of the task. -/

namespace Passthrough.Tool

open Files (FileTree)

namespace Task

def stateName : TileState → String
  | .resetDone => "RESET_DONE"
  | .resetOngoing => "RESET_ONGOING"
  | .loadDone => "LOAD_DONE"
  | .loadOngoing => "LOAD_ONGOING"
  | .loadError => "LOAD_ERROR"
  | .bootOngoing => "BOOT_ONGOING"
  | .bootError => "BOOT_ERROR"
  | .running => "RUNNING"
  | .unknown _ => "Invalid MC State"

def successLine : (task : Task) → task.Value → String
  | .load request, _ => s!"AIOP Image ({request.image}) loaded successfully."
  | .reset, _ => "AIOP Tile Reset Successful."
  | .status, ⟨tile, layer, state⟩ =>
      "AIOP Tile Status:\n" ++
      s!"\t Major Version: {tile.major.toNat}, " ++ s!"Minor Version: {tile.minor.toNat}\n" ++
      s!"\t Service Layer:- Major Version: {layer.major.toNat}, " ++
      s!"Minor Version: {layer.minor.toNat}, " ++ s!"Revision: {layer.revision.toNat}\n" ++
      s!"\t State: {stateName state}"
  | .timeOfDay, time => s!"Time of day: {time.toNat}"
  | .setTimeOfDay time, _ => s!"Time of day set to {time.toNat}."

/-- Only loading says in a line of its own that it failed. -/
def failureLine? : Task → Option String
  | .load request => some s!"AIOP Image ({request.image}) loading failed."
  | _ => none

def context? : Task → Option String
  | .load _ => none
  | .reset => some "AIOP tile reset"
  | .status => some "AIOP tile status"
  | .timeOfDay => some "reading time of day"
  | .setTimeOfDay _ => some "setting time of day"

def lines (task : Task) : Result task.Value → List String
  | .ok value => [task.successLine value]
  | .error _ => task.failureLine?.toList

/-- The first failure of a task and of the teardown behind it. -/
def verdict (task : Task) (result : Result task.Value) (released : Result Unit) :
    Except Failure Unit :=
  match result, released with
  | .error cause, _ => .error ⟨task.context?, cause⟩
  | .ok _, .error cause => .error ⟨some "releasing AIOP session", cause⟩
  | .ok _, .ok _ => .ok ()

variable {World Portal : Type}

theorem successLine_status (report : TileStatus) : successLine .status report = report.message := by
  obtain ⟨tile, layer, state⟩ := report
  cases state <;> rfl

theorem perform_apply (task : Task) (platform : Platform World Portal) (files : FileTree)
    (session : Session Portal) (start : Traced World) :
    let ended := task.operate platform files session start
    task.perform platform files session start =
      ((⟨task.lines ended.1.1, task.verdict ended.1.1 (.ok ())⟩, ended.1.2), ended.2) := by
  intro ended
  have reported (report : Result task.Value → Outcome)
      (same : ∀ result, report result =
        ⟨task.lines result, task.verdict result (.ok ())⟩) :
      ((report ended.1.1, ended.1.2), ended.2) =
        ((⟨task.lines ended.1.1, task.verdict ended.1.1 (.ok ())⟩, ended.1.2), ended.2) := by
    rw [same]
  cases task with
  | load request => exact reported (loaded request.image) fun result => by cases result <;> rfl
  | reset => exact reported (.ofResult _ _) fun result => by cases result <;> rfl
  | status =>
      refine reported (.ofResult _ TileStatus.message) fun result => ?_
      cases result with
      | error cause => rfl
      | ok report => rw [lines, successLine_status]; rfl
  | timeOfDay => exact reported (.ofResult _ _) fun result => by cases result <;> rfl
  | setTimeOfDay time => exact reported (.ofResult _ _) fun result => by cases result <;> rfl

theorem andReleased_verdict (task : Task) (result : Result task.Value) (released : Result Unit) :
    (⟨task.lines result, task.verdict result (.ok ())⟩ : Outcome).andReleased released =
      ⟨task.lines result, task.verdict result released⟩ := by
  cases result <;> cases released <;> rfl

theorem verdict_eq_ok_iff {task : Task} {result : Result task.Value} {released : Result Unit} :
    task.verdict result released = .ok () ↔ (∃ value, result = .ok value) ∧ released = .ok () := by
  cases result with
  | error cause => exact iff_of_false nofun fun ⟨⟨_, impossible⟩, _⟩ => nomatch impossible
  | ok value =>
      cases released with
      | error cause => exact iff_of_false nofun fun ⟨_, impossible⟩ => nomatch impossible
      | ok _ => exact iff_of_true rfl ⟨⟨value, rfl⟩, rfl⟩

theorem successLine_ne_failure {task : Task} {line : String} (tells : task.failureLine? = some line)
    (value : task.Value) : task.successLine value ≠ line := by
  cases task with
  | load request =>
      cases tells
      intro same
      exact absurd ((String.append_right_inj _).mp same) (by decide)
  | _ => cases tells

theorem successLine_mem_lines_iff {task : Task} {result : Result task.Value} :
    (∃ value, task.successLine value ∈ task.lines result) ↔ ∃ value, result = .ok value := by
  cases result with
  | ok value => exact iff_of_true ⟨value, List.mem_cons_self⟩ ⟨value, rfl⟩
  | error cause =>
      refine iff_of_false ?_ nofun
      rintro ⟨value, printed⟩
      obtain ⟨line, tells, same⟩ : ∃ line, task.failureLine? = some line ∧
          task.successLine value = line := by
        simpa [lines] using printed
      exact successLine_ne_failure tells value same

theorem failureLine_mem_lines_iff {task : Task} {line : String}
    (tells : task.failureLine? = some line) {result : Result task.Value} :
    line ∈ task.lines result ↔ ∃ cause, result = .error cause := by
  cases result with
  | ok value =>
      refine iff_of_false ?_ nofun
      intro printed
      exact successLine_ne_failure tells value (List.mem_singleton.mp printed).symm
  | error cause =>
      refine iff_of_true ?_ ⟨cause, rfl⟩
      unfold lines
      rw [tells]
      exact List.mem_cons_self

end Task

section

variable {World Portal : Type} (platform : Platform World Portal) (files : FileTree)
  (container : ContainerName) (task : Task) (start : Traced World)

def begun : Result (Session Portal) × Traced World :=
  (Session.start platform (Pool.empty .standard) container).outcome start

def performed (session : Session Portal) :
    (Result task.Value × Session Portal) × Traced World :=
  task.operate platform files session (begun platform container start).2

def released (session : Session Portal) : Result Unit × Traced World :=
  let ended := performed platform files container task start session
  (ended.1.2.teardown platform).outcome ended.2

/-- What comes of a run of the tool. -/
structure Course (ended : Outcome × Traced World) : Prop where
  /-- Without a session nothing else is attempted, and nothing is printed. -/
  unbound : ∀ cause, (begun platform container start).1 = .error cause →
    ended = (.failed (some s!"cannot bind AIOP tile in {container.text}") cause,
      (begun platform container start).2)
  /-- With one, the task and the teardown are attempted, and nothing else is. -/
  bound : ∀ session, (begun platform container start).1 = .ok session →
    ended.2 = (released platform files container task start session).2 ∧
      ended.1.lines =
        task.lines (performed platform files container task start session).1.1 ∧
      ended.1.result =
        task.verdict (performed platform files container task start session).1.1
          (released platform files container task start session).1
  succeeds : ended.1.result = .ok () ↔ ∃ session,
    (begun platform container start).1 = .ok session ∧
      (∃ value, (performed platform files container task start session).1.1 = .ok value) ∧
      (released platform files container task start session).1 = .ok ()
  /-- The line of success is printed even if the teardown fails. -/
  praised : (∃ value, task.successLine value ∈ ended.1.lines) ↔ ∃ session,
    (begun platform container start).1 = .ok session ∧
      ∃ value, (performed platform files container task start session).1.1 = .ok value
  blamed : ∀ line, task.failureLine? = some line →
    (line ∈ ended.1.lines ↔ ∃ session, (begun platform container start).1 = .ok session ∧
      ∃ cause, (performed platform files container task start session).1.1 = .error cause)

variable {platform files container task start}

theorem run_of_unbound {cause : DriverError}
    (unbound : (begun platform container start).1 = .error cause) :
    run platform files container task start =
      (.failed (some s!"cannot bind AIOP tile in {container.text}") cause,
        (begun platform container start).2) := by
  unfold begun at unbound
  rw [run, Logged.run_bind, unbound]
  rfl

theorem run_of_bound {session : Session Portal}
    (bound : (begun platform container start).1 = .ok session) :
    run platform files container task start =
      (⟨task.lines (performed platform files container task start session).1.1,
        task.verdict (performed platform files container task start session).1.1
          (released platform files container task start session).1⟩,
        (released platform files container task start session).2) := by
  rw [← task.andReleased_verdict]
  unfold begun at bound
  rw [run, Logged.run_bind, bound]
  dsimp only
  rw [Logged.run_bind, task.perform_apply]
  rfl

theorem run_course :
    Course platform files container task start (run platform files container task start) := by
  cases came : (begun platform container start).1 with
  | error cause =>
      have unknown {property : Session Portal → Prop} : ¬ ∃ session,
          (begun platform container start).1 = .ok session ∧ property session := by
        rintro ⟨session, other, -⟩
        rw [came] at other
        cases other
      rw [run_of_unbound came]
      refine ⟨?_, ?_, iff_of_false nofun unknown, iff_of_false ?_ unknown, fun line _ => ?_⟩
      · intro other same
        rw [came] at same
        cases same
        rfl
      · intro session other
        rw [came] at other
        cases other
      · rintro ⟨value, printed⟩
        cases printed
      · exact iff_of_false List.not_mem_nil unknown
  | ok session =>
      have known {property : Session Portal → Prop} : (∃ other,
          (begun platform container start).1 = .ok other ∧ property other) ↔ property session := by
        rw [came]
        constructor
        · rintro ⟨_, ⟨⟩, holds⟩
          exact holds
        · exact fun holds => ⟨session, rfl, holds⟩
      rw [run_of_bound came]
      refine ⟨?_, ?_, ?_, ?_, fun line tells => ?_⟩
      · intro cause other
        rw [came] at other
        cases other
      · intro other same
        rw [came] at same
        cases same
        exact ⟨rfl, rfl, rfl⟩
      · rw [known]
        exact Task.verdict_eq_ok_iff
      · rw [known]
        exact Task.successLine_mem_lines_iff
      · rw [known]
        exact Task.failureLine_mem_lines_iff tells

end

end Passthrough.Tool
