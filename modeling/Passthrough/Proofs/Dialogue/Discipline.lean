import Passthrough.Proofs.Dialogue.Script
import Passthrough.Proofs.Session.ChannelRule
import Passthrough.Proofs.Session.InUse
import Passthrough.Tool.Report

set_option autoImplicit false

/-! How sessions talk to the firmware. Whatever is done on a session, and however calls may fail
on the way, at most one firmware session is opened for it; it is closed again as the last
thing said; and the failure that is reported is the first that counts. -/

namespace Passthrough

variable {World Portal α : Type}

/-- The failures that a platform can have while files are staged and registered. -/
inductive Platform.Stalls (platform : Platform World Portal) : DriverError → Prop where
  | openFile (path : String) (start : Traced World) {failure : DriverError}
      (failed : ((platform.openFile path).outcome start).1 = .error failure) :
      platform.Stalls failure
  | mapFile (file : FileFd) (length : Nat) (start : Traced World) {failure : DriverError}
      (failed : ((platform.mapFile file length).outcome start).1 = .error failure) :
      platform.Stalls failure
  | mapDma (container : ContainerFd) (host : HostAddress) (device : DeviceAddress) (length : Nat)
      (start : Traced World) {failure : DriverError}
      (failed : ((platform.mapDma container host device length).outcome start).1 =
        .error failure) :
      platform.Stalls failure

def Result.StalledBy (result : Result α) (platform : Platform World Portal) : Prop :=
  ∀ failure, result = .error failure → platform.Stalls failure

namespace Tool.Task

/-- What a task says in its firmware session. What is loaded and run is left open. -/
inductive Prescribes : Task → Script → Prop where
  | load (request : LoadRequest) (image : LoadConfig) (run : RunConfig) :
      Prescribes (.load request) fun token =>
        (if request.reset then [⟨.reset token, false⟩] else []) ++
          [⟨.load token image, true⟩, ⟨.run token run, true⟩]
  | reset : Prescribes .reset fun token => [⟨.reset token, true⟩]
  | status : Prescribes .status fun token =>
      [ ⟨.attributes token, true⟩
      , ⟨.serviceLayerVersion token, true⟩
      , ⟨.state token, true⟩ ]
  | timeOfDay : Prescribes .timeOfDay fun token => [⟨.timeOfDay token, true⟩]
  | setTimeOfDay (time : UInt64) :
      Prescribes (.setTimeOfDay time) fun token => [⟨.setTimeOfDay token time, true⟩]

theorem Prescribes.within {task : Task} {script : Script} (prescribes : task.Prescribes script) :
    script.Within := by
  intro token line member
  cases prescribes with
  | load request image run =>
      rcases List.mem_append.mp member with resets | starts
      · cases reset : request.reset with
        | false => simp [reset] at resets
        | true =>
            rw [reset, if_pos rfl, List.mem_singleton] at resets
            rw [resets]
            exact ⟨rfl, nofun, nofun⟩
      · simp only [List.mem_cons, List.not_mem_nil, or_false] at starts
        rcases starts with rfl | rfl <;> exact ⟨rfl, nofun, nofun⟩
  | status =>
      simp only [List.mem_cons, List.not_mem_nil, or_false] at member
      rcases member with rfl | rfl | rfl <;> exact ⟨rfl, nofun, nofun⟩
  | reset | timeOfDay | setTimeOfDay time =>
      rw [List.mem_singleton] at member
      rw [member]
      exact ⟨rfl, nofun, nofun⟩

/-- What is said during a task, and the failure that it ends with. Nothing is said during a load
whose files are refused or cannot be staged. -/
inductive Course (platform : Platform World Portal) (files : Files.FileTree)
    (hardwareId : UInt32) : Task → List Exchange → Option DriverError → Prop where
  | refused {request : LoadRequest} {failure : DriverError}
      (refused : request.plan files = .error failure) :
      Course platform files hardwareId (.load request) [] (some failure)
  | stalled (request : LoadRequest) {failure : DriverError} (stalls : platform.Stalls failure) :
      Course platform files hardwareId (.load request) [] (some failure)
  | heard {task : Task} {script : Script} {said : List Exchange} {verdict : Option DriverError}
      (prescribes : task.Prescribes script)
      (converses : Converses hardwareId script said verdict) :
      Course platform files hardwareId task said verdict

end Tool.Task

/-- The session keeps its objects, and what is said meanwhile fits the failure. -/
def Logged.Discloses (action : Logged (Heard World) (Result α × Session Portal))
    (devices : DeviceSet) (dialogue : List Exchange → Option DriverError → Prop) : Prop :=
  ∀ heard, action.Yields heard fun outcome after => outcome.2.devices = devices ∧
    ∃ said, after.exchanges = heard.exchanges ++ said ∧ dialogue said outcome.1.failure?

theorem Logged.Discloses.mono {action : Logged (Heard World) (Result α × Session Portal)}
    {devices : DeviceSet} {dialogue weaker : List Exchange → Option DriverError → Prop}
    (discloses : action.Discloses devices dialogue)
    (implied : ∀ said verdict, dialogue said verdict → weaker said verdict) :
    action.Discloses devices weaker := by
  intro heard
  refine (discloses heard).mono ?_
  rintro outcome after ⟨same, said, added, fits⟩
  exact ⟨same, said, added, implied said _ fits⟩

namespace Platform

variable (platform : Platform World Portal) {devices : DeviceSet}

theorem discloses_withChannel {session : Session Portal} (same : session.devices = devices)
    (tokenless : devices.accelerator.token = none) (operation : String)
    {calls : Token → Act (Heard World) α} {script : Script} (within : script.Within)
    (speaks : ∀ token, (calls token).Speaks (script token)) :
    (session.withChannel platform.overheard operation calls).Discloses devices
      (Converses devices.accelerator.hardwareId script) := by
  subst same
  have settled (token : Token) :
      ((session.withToken (some token)).withToken none).devices = session.devices := by
    rw [← tokenless]
    rfl
  intro heard
  have speaking (token : Token) (opened : Heard World)
      (added : opened.exchanges = heard.exchanges ++
        [⟨.openSession session.devices.accelerator.hardwareId, .ok token⟩]) :
      (calls token).Yields opened fun result spoke => ∃ said, spoke.exchanges =
          heard.exchanges ++
            ⟨.openSession session.devices.accelerator.hardwareId, .ok token⟩ :: said ∧
        Spoken (script token) said result.failure? := by
    refine (speaks token opened).mono ?_
    rintro result spoke ⟨said, follows, spoken⟩
    refine ⟨said, ?_, spoken⟩
    rw [follows, added, List.append_assoc, List.singleton_append]
  refine Session.yields_withChannel operation
    (platform.yields_overheard session.portal _ heard) ?_ speaking ?_
  · intro failure opened added
    exact ⟨rfl, _, added, .refused failure⟩
  · rintro token result spoke ⟨said, follows, spoken⟩
    refine (platform.yields_overheard session.portal (.closeSession token) spoke).mono ?_
    intro closed after ended
    have converses : Converses session.devices.accelerator.hardwareId script _ _ :=
      .held token spoken (spoken.within within) closed
    rw [← Result.failure?_andClosed] at converses
    refine ⟨settled token, _, ?_, converses⟩
    rw [ended, follows, List.append_assoc]

theorem stalls_stage (path : String) (length : Nat) (heard : Heard World) :
    (Session.stage platform.overheard path length).Yields heard fun result _ =>
      result.StalledBy platform := by
  have opens : (platform.overheard.openFile path).Yields heard fun result _ =>
      result.StalledBy platform :=
    fun log _ failed => .openFile path ⟨heard.world, log⟩ failed
  have maps (file : FileFd) (opened : Heard World) :
      (platform.overheard.mapFile file length).Yields opened fun result _ =>
        result.StalledBy platform :=
    fun log _ failed => .mapFile file length ⟨opened.world, log⟩ failed
  unfold Session.stage
  refine Act.Yields.andThen opens ?_ fun file opened _ => ?_
  · rintro failure _ stalls _ ⟨⟩
    exact stalls failure rfl
  refine Act.Yields.cleanOrThen (maps file opened) ?_ ?_
  · rintro failure _ stalls _ _ ⟨⟩
    exact stalls failure rfl
  · exact fun _ _ _ => Act.Yields.pure nofun

theorem stalls_register (space : DmaSpace) (address : HostAddress) (length : Nat)
    (heard : Heard World) :
    (space.register platform.overheard address length).Yields heard fun outcome _ =>
      outcome.1.StalledBy platform := by
  have maps : (platform.overheard.mapDma space.container address address.identity length).Yields
      heard fun result _ => result.StalledBy platform :=
    fun log _ failed =>
      .mapDma space.container address address.identity length ⟨heard.world, log⟩ failed
  unfold DmaSpace.register
  refine Logged.Yields.andThen maps ?_
  intro result mapped stalls
  cases result with
  | error failure =>
      refine Logged.Yields.pure ?_
      rintro _ ⟨⟩
      exact stalls failure rfl
  | ok _ =>
      have ensured : (space.ensureInterruptPage platform.overheard).Yields mapped
          fun _ _ => True := fun _ => trivial
      exact Logged.Yields.andThen ensured fun _ _ _ => Logged.Yields.pure nofun

section

variable {dialogue : List Exchange → Option DriverError → Prop}
  (unheard : ∀ failure, platform.Stalls failure → dialogue [] (some failure))
  {session : Session Portal} (same : session.devices = devices)

include unheard same

theorem discloses_withStaged (path : String) (length : Nat)
    {work : Session.StagedFile → Session Portal →
      Logged (Heard World) (Result α × Session Portal)}
    (works : ∀ file session, session.devices = devices →
      (work file session).Discloses devices dialogue) :
    (session.withStaged platform.overheard path length work).Discloses devices dialogue := by
  intro heard
  unfold Session.withStaged
  refine Logged.Yields.andThen
    ((platform.silent_stage path length heard).and (platform.stalls_stage path length heard)) ?_
  intro result staged ⟨silent, stalls⟩
  cases result with
  | error failure =>
      refine Logged.Yields.pure ⟨same, [], ?_, unheard failure (stalls failure rfl)⟩
      rw [silent, List.append_nil]
  | ok file =>
      refine Logged.Yields.andThen (works file session same staged) ?_
      rintro ⟨result, left⟩ worked ⟨same, said, added, fits⟩
      refine Logged.Yields.andThen (platform.silent_unstage file worked) ?_
      intro _ after quiet
      refine Logged.Yields.pure ⟨same, said, ?_, fits⟩
      rw [quiet, added, silent]

theorem discloses_withRegistered (file : Session.StagedFile)
    {work : Registration → Session Portal → Logged (Heard World) (Result α × Session Portal)}
    (works : ∀ registration session, session.devices = devices →
      (work registration session).Discloses devices dialogue) :
    (session.withRegistered platform.overheard file work).Discloses devices dialogue := by
  intro heard
  unfold Session.withRegistered
  refine Logged.Yields.andThen
    ((platform.silent_register session.dma file.address file.length heard).and
      (platform.stalls_register session.dma file.address file.length heard)) ?_
  rintro ⟨result, space⟩ registered ⟨silent, stalls⟩
  cases result with
  | error failure =>
      refine Logged.Yields.pure ⟨same, [], ?_, unheard failure (stalls failure rfl)⟩
      rw [silent, List.append_nil]
  | ok registration =>
      refine Logged.Yields.andThen
        (works registration { session with dma := space } same registered) ?_
      rintro ⟨result, left⟩ worked ⟨same, said, added, fits⟩
      refine Logged.Yields.andThen (platform.silent_unregister left.dma registration worked) ?_
      intro space after quiet
      refine Logged.Yields.pure ⟨same, said, ?_, fits⟩
      rw [quiet, added, silent]

end

theorem discloses_loadAndRun {session : Session Portal} (same : session.devices = devices)
    (tokenless : devices.accelerator.token = none) (files : Files.FileTree)
    (request : LoadRequest) (image : LoadConfig) (run : RunConfig) :
    (session.loadAndRun platform.overheard request.reset image run).Discloses devices
      (Tool.Task.Course platform files devices.accelerator.hardwareId (.load request)) := by
  have prescribes := Tool.Task.Prescribes.load request image run
  unfold Session.loadAndRun
  refine (platform.discloses_withChannel same tokenless _ prescribes.within fun token => ?_).mono
    fun _ _ converses => .heard prescribes converses
  have starts := Act.Speaks.bind (Act.Speaks.request platform session.portal (.load token image))
    fun _ => Act.Speaks.request platform session.portal (.run token run)
  cases request.reset with
  | false => exact starts
  | true =>
      exact Act.Speaks.bind (Act.Speaks.resetFirst platform session token) fun _ => starts

theorem discloses_carryOut {session : Session Portal} (same : session.devices = devices)
    (tokenless : devices.accelerator.token = none) (files : Files.FileTree)
    (request : LoadRequest) (plan : LoadPlan) :
    (session.carryOut platform.overheard request plan).Discloses devices
      (Tool.Task.Course platform files devices.accelerator.hardwareId (.load request)) := by
  have unheard (failure : DriverError) (stalls : platform.Stalls failure) :
      Tool.Task.Course platform files devices.accelerator.hardwareId (.load request) []
        (some failure) :=
    .stalled request stalls
  have starts (session : Session Portal) (same : session.devices = devices)
      (image : LoadConfig) (run : RunConfig) :=
    platform.discloses_loadAndRun same tokenless files request image run
  unfold Session.carryOut
  refine platform.discloses_withStaged unheard same _ _ fun image session same => ?_
  cases request.arguments with
  | none =>
      refine platform.discloses_withRegistered unheard same image fun imageDma session same => ?_
      exact starts session same _ _
  | some path =>
      cases plan.argumentLength with
      | none =>
          refine platform.discloses_withRegistered unheard same image
            fun imageDma session same => ?_
          exact starts session same _ _
      | some length =>
          refine platform.discloses_withStaged unheard same path _
            fun arguments session same => ?_
          refine platform.discloses_withRegistered unheard same image
            fun imageDma session same => ?_
          refine platform.discloses_withRegistered unheard same arguments
            fun argumentsDma session same => ?_
          exact starts session same _ _

theorem discloses_load {session : Session Portal}
    (tokenless : session.devices.accelerator.token = none) (files : Files.FileTree)
    (request : LoadRequest) :
    (session.load platform.overheard files request).Discloses session.devices
      (Tool.Task.Course platform files session.devices.accelerator.hardwareId (.load request)) := by
  intro heard
  unfold Session.load
  cases planned : request.plan files with
  | error failure =>
      refine Logged.Yields.afterNote (Logged.Yields.pure ⟨rfl, [], ?_, .refused planned⟩)
      exact (List.append_nil _).symm
  | ok plan =>
      refine Logged.Yields.andThen
        (platform.discloses_carryOut rfl tokenless files request plan heard) ?_
      rintro ⟨result, left⟩ after fits
      cases result with
      | ok _ => exact Logged.Yields.pure fits
      | error failure => exact Logged.Yields.afterNote (Logged.Yields.pure fits)

theorem discloses_operate {session : Session Portal}
    (tokenless : session.devices.accelerator.token = none) (files : Files.FileTree)
    (task : Tool.Task) :
    (task.operate platform.overheard files session).Discloses session.devices
      (task.Course platform files session.devices.accelerator.hardwareId) := by
  have speaks {task : Tool.Task} {script : Script} (prescribes : task.Prescribes script)
      (operation : String) {calls : Token → Act (Heard World) task.Value}
      (speaks : ∀ token, (calls token).Speaks (script token)) :
      (session.withChannel platform.overheard operation calls).Discloses session.devices
        (task.Course platform files session.devices.accelerator.hardwareId) :=
    (platform.discloses_withChannel rfl tokenless operation prescribes.within speaks).mono
      fun _ _ converses => .heard prescribes converses
  have asks (call : Call) := Act.Speaks.request platform session.portal call
  cases task with
  | load request => exact platform.discloses_load tokenless files request
  | reset => exact speaks .reset "reset" fun token => asks (.reset token)
  | timeOfDay => exact speaks .timeOfDay "get_time_of_day" fun token => asks (.timeOfDay token)
  | setTimeOfDay time =>
      exact speaks (.setTimeOfDay time) "set_time_of_day"
        fun token => asks (.setTimeOfDay token time)
  | status =>
      refine speaks .status "status" fun token => ?_
      exact (asks (.attributes token)).bind fun _ => (asks (.serviceLayerVersion token)).bind
        fun _ => (asks (.state token)).bind fun _ => Act.Speaks.pure _

end Platform

theorem Platform.Reflects.operate {Outer Inner : Type} {outer : Platform Outer Portal}
    {view : Outer → Inner} {inner : Platform Inner Portal} (reflects : outer.Reflects view inner)
    (files : Files.FileTree) (session : Session Portal) (task : Tool.Task) :
    (task.operate outer files session).Mirrors view (task.operate inner files session) := by
  have asks (call : Call) := reflects.request session.portal call
  cases task with
  | load request => exact reflects.load session files request
  | reset => exact reflects.withChannel session "reset" fun token => asks (.reset token)
  | timeOfDay =>
      exact reflects.withChannel session "get_time_of_day" fun token => asks (.timeOfDay token)
  | setTimeOfDay time =>
      exact reflects.withChannel session "set_time_of_day"
        fun token => asks (.setTimeOfDay token time)
  | status =>
      refine reflects.withChannel session "status" fun token => ?_
      refine Act.Mirrors.bind (asks (.attributes token)) fun _ => ?_
      refine Act.Mirrors.bind (asks (.serviceLayerVersion token)) fun _ => ?_
      exact Act.Mirrors.bind (asks (.state token)) fun _ => Act.Mirrors.pure _

def Tool.Task.overheard (task : Tool.Task) (platform : Platform World Portal)
    (files : Files.FileTree) (session : Session Portal) (start : Traced World) :
    (Result task.Value × Session Portal) × Traced (Heard World) :=
  task.operate platform.overheard files session
    ⟨{ world := start.world, exchanges := [] }, start.log⟩

theorem Tool.Task.operate_eq_overheard (task : Tool.Task) (platform : Platform World Portal)
    (files : Files.FileTree) (session : Session Portal) (start : Traced World) :
    task.operate platform files session start =
      ((task.overheard platform files session start).1,
        (task.overheard platform files session start).2.viewed Heard.world) :=
  platform.overheard_reflects.operate files session task
    ⟨{ world := start.world, exchanges := [] }, start.log⟩

theorem Session.InUse.tokenless {session : Session Portal} (used : session.InUse) :
    session.devices.accelerator.token = none := by
  induction used with
  | started platform pool container start begun =>
      have course := Session.start_tokenless platform pool container start.world start.log
      rw [show ((Session.start platform pool container).outcome ⟨start.world, start.log⟩).1 = _
        from begun] at course
      exact course
  | operated platform files task start used tokenless =>
      have kept := platform.discloses_operate tokenless files task ⟨start.world, []⟩ start.log
      rw [task.operate_eq_overheard]
      exact (congrArg (fun devices : DeviceSet => devices.accelerator.token) kept.1).trans
        tokenless

/-- Every task on every session in use is disciplined, however the firmware answers. -/
theorem Session.InUse.operate_disciplined {session : Session Portal} (used : session.InUse)
    (platform : Platform World Portal) (files : Files.FileTree) (task : Tool.Task)
    (start : Traced World) :
    let ended := task.overheard platform files session start
    task.operate platform files session start = (ended.1, ended.2.viewed Heard.world) ∧
      task.Course platform files session.devices.accelerator.hardwareId
        ended.2.world.exchanges ended.1.1.failure? ∧
      session.devices.accelerator.token = none ∧
      ended.1.2.devices.accelerator.token = none := by
  intro ended
  have tokenless := used.tokenless
  obtain ⟨same, said, added, course⟩ :=
    platform.discloses_operate tokenless files task ⟨start.world, []⟩ start.log
  refine ⟨task.operate_eq_overheard platform files session start, ?_, tokenless, ?_⟩
  · rw [List.nil_append] at added
    rwa [← added] at course
  · exact (congrArg (fun devices : DeviceSet => devices.accelerator.token) same).trans tokenless

theorem Session.InUse.operate_disciplined_of_two_failures :
    let files : Files.FileTree := ⟨[], []⟩
    let platform := Simulator.platform files
    let started := (Session.start platform (Pool.empty .standard) .standard).outcome
      ⟨Tool.demonstration .standard, []⟩
    let faulty : Traced Simulator :=
      ⟨(started.2.world.inject .state).inject .firmwareClose, []⟩
    ∃ session, started.1 = .ok session ∧ session.InUse ∧
      let ended := Tool.Task.status.overheard platform files session faulty
      Tool.Task.status.operate platform files session faulty =
          (ended.1, ended.2.viewed Heard.world) ∧
        Tool.Task.status.Course platform files session.devices.accelerator.hardwareId
          ended.2.world.exchanges ended.1.1.failure? ∧
        session.devices.accelerator.token = none ∧
        ended.1.2.devices.accelerator.token = none ∧
        ended.2.world.exchanges.map Exchange.call =
          [ .openSession 0, .attributes ⟨2⟩, .serviceLayerVersion ⟨2⟩, .state ⟨2⟩
          , .closeSession ⟨2⟩ ] ∧
        ended.1.1.failure? = some (.firmware "get_state" .busy) := by
  intro files platform started faulty
  have spoken : started.1.toOption.map (fun session =>
      let ended := Tool.Task.status.overheard platform files session faulty
      (ended.2.world.exchanges.map Exchange.call, ended.1.1.failure?)) =
        some ([ .openSession 0, .attributes ⟨2⟩, .serviceLayerVersion ⟨2⟩, .state ⟨2⟩
          , .closeSession ⟨2⟩ ], some (.firmware "get_state" .busy)) := by
    decide +kernel
  have used (session : Session HostAddress) (begun : started.1 = .ok session) : session.InUse :=
    .started platform _ _ _ begun
  clear_value started
  rcases started with ⟨_ | session, left⟩
  · cases spoken
  · have said := Prod.mk.inj (Option.some.inj spoken)
    have disciplined :=
      (used session rfl).operate_disciplined platform files .status faulty
    exact ⟨session, rfl, used session rfl, disciplined.1, disciplined.2.1, disciplined.2.2.1,
      disciplined.2.2.2, said⟩

end Passthrough
