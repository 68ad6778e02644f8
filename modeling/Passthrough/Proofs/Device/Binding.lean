import Passthrough.Proofs.Device.Survey
import Passthrough.Proofs.Pool.Course
import Passthrough.Proofs.Session.InUse
import Passthrough.Proofs.Session.Reflection
import Passthrough.Proofs.Simulator.Reachable

set_option autoImplicit false

/-! Binding the objects of a group, on any platform that answers a survey of them. The calls are
written down in a journal, which changes nothing else; they show that nothing is opened
before both names are resolved, and that what was opened in vain is closed. On a machine
the descriptors are then what they were before. -/

namespace Passthrough

open Simulator (OpenObject)

section

variable {World Portal : Type}

/-- A platform answers a survey, whatever is written to the log in between. -/
def Platform.Answers (platform : Platform World Portal) (survey : Survey) (descriptor : GroupFd)
    (group : GroupId) (world : World) : Prop :=
  (platform.groupDevices group).Yields world fun result listed =>
    result = .ok survey.names ∧ ∀ name ∈ survey.names,
      (platform.deviceFd descriptor name).Yields listed fun result opened =>
        result = survey.opening name ∧ ∀ device, result = .ok device →
          (platform.deviceInfo device).Yields opened fun result _ =>
            result = survey.querying name

namespace DeviceSet

theorem yields_choice (role : DeviceRole) (group : GroupId) (names : List String)
    (world : World) :
    (first role group names : Act World DeviceRecord).Yields world fun result after =>
      Survey.Choice role group (names.find? (ObjectName.hasClass role.objectClass)) result ∧
        after = world := by
  rw [← List.head?_filter]
  change (first role group names : Act World DeviceRecord).Yields world fun result after =>
    Survey.Choice role group (candidates role names).head? result ∧ after = world
  unfold first
  cases candidates role names with
  | nil => exact fun _ => ⟨.missing, rfl⟩
  | cons name extras =>
      refine Act.Yields.andThenLogged (yields_reportIgnored role name extras world) ?_
      rintro _ _ rfl
      cases parsed : ObjectName.number? name with
      | none => exact Act.Yields.throw ⟨.unnumbered parsed, rfl⟩
      | some number => exact Act.Yields.pure ⟨.chosen parsed, rfl⟩

theorem yields_afterChoice {α : Type} {role : DeviceRole} {group : GroupId} {names : List String}
    {next : DeviceRecord → Act World α} {world : World} {after : Result α → World → Prop}
    (fails : ∀ failure, Survey.Choice role group
      (names.find? (ObjectName.hasClass role.objectClass)) (.error failure) →
        after (.error failure) world)
    (chooses : ∀ record, Survey.Choice role group
      (names.find? (ObjectName.hasClass role.objectClass)) (.ok record) →
        (next record).Yields world after) :
    (first role group names >>= next).Yields world after := by
  refine Act.Yields.andThen (yields_choice role group names world) ?_ ?_
  · rintro failure _ ⟨choice, rfl⟩
    exact fails failure choice
  · rintro record _ ⟨choice, rfl⟩
    exact chooses record choice

end DeviceSet

variable {platform : Platform World Portal} {survey : Survey} {descriptor : GroupFd}
  {group : GroupId} {world : World}

theorem Platform.Answers.verdict (answers : platform.Answers survey descriptor group world) :
    (DeviceSet.bind platform.journaled descriptor group).Yields (.opened world)
      fun result journal => survey.Verdict descriptor group result journal.calls := by
  have listed : (platform.journaled.groupDevices group).Yields (.opened world)
      fun result journal => result = .ok survey.names ∧ journal.calls = [Survey.listing] ∧
        ∀ name ∈ survey.names,
          (platform.deviceFd descriptor name).Yields journal.world fun result opened =>
            result = survey.opening name ∧ ∀ device, result = .ok device →
              (platform.deviceInfo device).Yields opened fun result _ =>
                result = survey.querying name := by
    refine Journal.yields_act (answers.mono ?_)
    rintro _ reached ⟨rfl, opens⟩
    exact ⟨rfl, rfl, opens⟩
  unfold DeviceSet.bind
  refine listed.doneThen ?_
  rintro journal ⟨calls, opens⟩
  refine DeviceSet.yields_afterChoice ?_ ?_
  · intro failure companion
    rw [calls]
    exact .companionFails companion
  intro own companion
  refine DeviceSet.yields_afterChoice ?_ ?_
  · intro failure accelerator
    rw [calls]
    exact .acceleratorFails companion accelerator
  intro other accelerator
  have among : other.name ∈ survey.names :=
    List.mem_of_find?_eq_some (Survey.Choice.names accelerator).1.first
  have opened : (platform.journaled.deviceFd descriptor other.name).Yields journal
      fun result reached => result = survey.opening other.name ∧
        reached.calls =
          [Survey.listing, ⟨.deviceFd, some descriptor.number, result.failure?⟩] ∧
        ∀ device, result = .ok device →
          (platform.deviceInfo device).Yields reached.world fun result _ =>
            result = survey.querying other.name := by
    refine Journal.yields_act ((opens other.name among).mono ?_)
    rintro result reached ⟨same, queries⟩
    refine ⟨same, ?_, queries⟩
    rw [Journal.entered, calls]
    rfl
  refine Act.Yields.andThen opened ?_ ?_
  · rintro failure reached ⟨refused, calls, -⟩
    rw [calls]
    exact .openingFails companion accelerator refused.symm
  rintro device journal ⟨opened, calls, queries⟩
  have queried : (platform.journaled.deviceInfo device).Yields journal fun result reached =>
      result = survey.querying other.name ∧
        reached.calls = [Survey.listing, ⟨.deviceFd, some descriptor.number, none⟩,
          ⟨.deviceInfo, some device.number, result.failure?⟩] := by
    refine Journal.yields_act ((queries device rfl).mono ?_)
    intro result reached same
    refine ⟨same, ?_⟩
    rw [Journal.entered, calls]
    rfl
  refine Act.Yields.cleanOrThen queried ?_ ?_
  · rintro failure reached ⟨refused, calls⟩
    refine Logged.Yields.afterNote (Platform.yields_closeQuietly (Journal.yields_act ?_))
    intro log
    rw [Journal.entered, calls]
    exact .queryingFails companion accelerator opened.symm refused.symm
  · rintro metadata reached ⟨answered, calls⟩
    refine Act.Yields.pure ?_
    rw [calls]
    exact .binds companion accelerator opened.symm answered.symm

theorem Platform.journaled_reflects (platform : Platform World Portal) :
    platform.journaled.Reflects Journal.world platform where
  openFile _ _ := rfl
  mapFile _ _ _ := rfl
  mapDevice _ _ _ _ := rfl
  mapDma _ _ _ _ _ := rfl
  unmapDma _ _ _ _ := rfl
  unmap _ _ _ := rfl
  close _ _ := rfl
  request _ _ _ := rfl

theorem DeviceSet.first_mirrors {Outer Inner : Type} (view : Outer → Inner) (role : DeviceRole)
    (group : GroupId) (names : List String) :
    (first role group names : Act Outer DeviceRecord).Mirrors view (first role group names) := by
  have reports (chosen : String) (extras : List String) :
      (reportIgnored role chosen extras : Logged Outer Unit).Mirrors view
        (reportIgnored role chosen extras) := by
    induction extras with
    | nil => exact Logged.Mirrors.pure _
    | cons extra rest ih => exact Logged.Mirrors.afterNote ih
  unfold first
  cases candidates role names with
  | nil => exact fun _ => rfl
  | cons name extras =>
      refine (Act.Mirrors.ofLogged (reports name extras)).bind fun _ => ?_
      cases ObjectName.number? name with
      | none => exact fun _ => rfl
      | some number => exact Act.Mirrors.pure _

theorem DeviceSet.bind_mirrors (platform : Platform World Portal) (descriptor : GroupFd)
    (group : GroupId) :
    (bind platform.journaled descriptor group).Mirrors Journal.world
      (bind platform descriptor group) := by
  unfold bind
  refine Act.Mirrors.bind (fun _ => rfl) fun names => ?_
  refine (first_mirrors _ .companion group names).bind fun companion => ?_
  refine (first_mirrors _ .accelerator group names).bind fun accelerator => ?_
  refine Act.Mirrors.bind (fun _ => rfl) fun device => ?_
  refine (Act.Mirrors.onFailure (fun _ => rfl) fun failure => ?_).bind fun metadata =>
    Act.Mirrors.pure _
  exact (platform.journaled_reflects.closeQuietly device).afterNote

end

theorem Simulator.erase_insert_descriptor {sim : Simulator} {number : Int} (object : OpenObject)
    (free : sim.descriptors[number]? = none) :
    (sim.descriptors.insert number object).erase number = sim.descriptors := by
  refine Std.ExtTreeMap.ext_getElem? fun other => ?_
  rw [Std.ExtTreeMap.getElem?_erase, Std.ExtTreeMap.getElem?_insert]
  split
  · next same =>
      have here : number = other := by simpa using same
      rw [← here, free]
  · rfl

structure Simulator.Opens (before : Simulator) (name : String) (device : DeviceFd)
    (after : Simulator) : Prop where
  free : before.descriptors[device.number]? = none
  grown : after.descriptors = before.descriptors.insert device.number (.device name)

theorem Simulator.Fresh.deviceFd {sim : Simulator} (fresh : sim.Fresh) (group : GroupFd)
    (name : String) : Result.Either
      (fun device => sim.Opens name device (sim.deviceFd group name).2)
      ((sim.deviceFd group name).2.descriptors = sim.descriptors)
      (sim.deviceFd group name).1 := by
  rw [Simulator.deviceFd_eq]
  repeat' split
  · exact ⟨fresh.descriptors _ (Int.lt_succ _), rfl⟩
  all_goals rfl

theorem Simulator.Opens.close {before after : Simulator} {name : String} {device : DeviceFd}
    (opens : before.Opens name device after) :
    (after.close device.number).2.descriptors = before.descriptors := by
  have there : after.descriptors[device.number]? = some (.device name) := by
    rw [opens.grown]
    exact Std.ExtTreeMap.getElem?_insert_self
  rw [Simulator.close_eq, there]
  change after.descriptors.erase device.number = _
  rw [opens.grown, before.erase_insert_descriptor (.device name) opens.free]

/-- Behind anything that may refuse calls, other than that of closing, a failure leaves the
descriptors of the machine as they were, and a success adds the accelerator. -/
theorem Platform.Hosts.binds {World : Type} {platform : Platform World HostAddress}
    {machine : World → Simulator} {files : Files.FileTree} {refusable : Operation → Prop}
    (hosts : platform.Hosts machine files refusable) (closes : ¬ refusable (.closeKind .device))
    (descriptor : GroupFd) (group : GroupId) {world : World} (fresh : (machine world).Fresh) :
    (DeviceSet.bind platform descriptor group).Yields world fun result after => result.Either
      (fun devices => ∃ device, devices.accelerator.descriptor = some device ∧
        (machine world).Opens devices.accelerator.name device (machine after))
      ((machine after).descriptors = (machine world).descriptors) := by
  unfold DeviceSet.bind
  refine Act.Yields.andThen ((hosts.groupDevices group).asks world) ?_ ?_
  · exact fun _ _ same => congrArg Simulator.descriptors same
  intro names listed same
  have untouched : (machine listed).descriptors = (machine world).descriptors :=
    congrArg Simulator.descriptors same
  refine DeviceSet.yields_afterChoice (fun _ _ => untouched) ?_
  intro companion _
  refine DeviceSet.yields_afterChoice (fun _ _ => untouched) ?_
  intro accelerator _
  have opened : (platform.deviceFd descriptor accelerator.name).Yields listed
      fun result after => result.Either
        (fun device => (machine world).Opens accelerator.name device (machine after))
        ((machine after).descriptors = (machine world).descriptors) := by
    have known := fresh.deviceFd descriptor accelerator.name
    refine (hosts.deviceFd descriptor accelerator.name listed).mono ?_
    rintro result after (came | ⟨-, ⟨failure, rfl⟩, still⟩)
    · rw [← same, show (machine listed).deviceFd descriptor accelerator.name = _ from came.symm]
        at known
      rwa [same] at known
    · exact (congrArg Simulator.descriptors still).trans untouched
  refine opened.andThen (fun _ _ known => known) ?_
  intro device reached opens
  refine Act.Yields.cleanOrThen ((hosts.deviceInfo device).asks reached) ?_ ?_
  · intro failure asked still
    refine Logged.Yields.afterNote (Platform.yields_closeQuietly ?_)
    refine (hosts.close device asked).mono ?_
    rintro result after (closed | ⟨refused, -⟩)
    · have closed : machine after = ((machine asked).close device.number).2 :=
        congrArg Prod.snd closed
      change (machine after).descriptors = (machine world).descriptors
      rw [closed, still]
      exact opens.close
    · exact absurd refused closes
  · intro metadata asked still
    refine Act.Yields.pure ⟨device, rfl, ?_⟩
    rw [still]
    exact opens

section

variable {World Portal : Type}

def Simulator.survey (sim : Simulator) (descriptor : GroupFd) (names : List String) : Survey :=
  { names := names
    opening := fun name => (sim.deviceFd descriptor name).1
    querying := fun name => (sim.deviceFd descriptor name).2.deviceInfo ⟨sim.lastDescriptor + 1⟩ }

theorem Simulator.answers_survey (sim : Simulator) (files : Files.FileTree)
    (descriptor : GroupFd) {group : GroupId} {names : List String}
    (listed : sim.groupDevices group = .ok names) :
    (platform files).Answers (sim.survey descriptor names) descriptor group sim := by
  intro _
  refine ⟨listed, fun name _ _ => ⟨rfl, ?_⟩⟩
  intro device opened _
  change (sim.deviceFd descriptor name).2.deviceInfo device = _
  have issued : device = ⟨sim.lastDescriptor + 1⟩ := by
    change (sim.deviceFd descriptor name).1 = _ at opened
    rw [deviceFd_eq] at opened
    repeat' split at opened
    all_goals cases opened
    rfl
  rw [issued]
  rfl

/-- Binding is decided by the first name of each role, in the listing as it may be, and by what
becomes of opening and querying the accelerator. Nothing is opened before both names are
resolved, and nothing stays open after a failure, unless closing is refused. -/
theorem binding_decided_by_first_names (platform : Platform World Portal) (survey : Survey)
    (descriptor : GroupFd) (group : GroupId) (start : Traced World)
    (answers : platform.Answers survey descriptor group start.world) :
    let ended := (DeviceSet.bind platform descriptor group).outcome start
    let noted := (DeviceSet.bind platform.journaled descriptor group).outcome
      ⟨.opened start.world, start.log⟩
    noted.1 = ended.1 ∧ noted.2.world.world = ended.2.world ∧
    survey.Verdict descriptor group ended.1 noted.2.world.calls ∧
    ((∃ devices, ended.1 = .ok devices) ↔
      ∃ own id name number device metadata, survey.Names .companion own id ∧
        survey.Names .accelerator name number ∧ survey.opening name = .ok device ∧
        survey.querying name = .ok metadata) ∧
    (∀ devices, ended.1 = .ok devices → survey.Bound devices) ∧
    (∀ {Elsewhere Window : Type} (other : Platform Elsewhere Window) (others : Survey)
      (begun : Traced Elsewhere), survey.Agrees others →
        other.Answers others descriptor group begun.world →
          ((DeviceSet.bind other descriptor group).outcome begun).1 = ended.1) ∧
    ∀ {Site : Type} (host : Platform Site HostAddress) (machine : Site → Simulator)
      (files : Files.FileTree) (refusable : Operation → Prop) (begun : Traced Site),
      host.Hosts machine files refusable → ¬ refusable (.closeKind .device) →
      (machine begun.world).Reachable →
        let left := (DeviceSet.bind host descriptor group).outcome begun
        left.1.Either
          (fun devices => ∃ device, devices.accelerator.descriptor = some device ∧
            (machine begun.world).Opens devices.accelerator.name device
              (machine left.2.world))
          ((machine left.2.world).descriptors = (machine begun.world).descriptors) := by
  intro ended noted
  have mirrored : ended = (noted.1, noted.2.viewed Journal.world) :=
    DeviceSet.bind_mirrors platform descriptor group ⟨.opened start.world, start.log⟩
  have same : noted.1 = ended.1 := (congrArg Prod.fst mirrored).symm
  have verdict : survey.Verdict descriptor group ended.1 noted.2.world.calls := by
    rw [← same]
    exact answers.verdict start.log
  refine ⟨same, ?_, verdict, verdict.isOk_iff, ?_, ?_, ?_⟩
  · rw [mirrored]
    rfl
  · intro devices bound
    rw [bound] at verdict
    exact verdict.bound
  · intro Elsewhere Window other others begun agrees reached
    have mirrors := DeviceSet.bind_mirrors other descriptor group
      ⟨.opened begun.world, begun.log⟩
    have elsewhere := agrees.verdict (reached.verdict begun.log)
    exact (congrArg Prod.fst mirrors).trans (elsewhere.unique verdict)
  · intro Site host machine files refusable begun hosts closes reachable
    exact hosts.binds closes descriptor group reachable.fresh begun.log

/-- A name that only looks like that of a companion comes first, and those of further objects, which
could not be bound, are passed over. -/
theorem binding_decided_by_first_names_of_lookalikes :
    let names := ["dprc.5", "dpbp.1", "dpmcpx.23", "dpmcp.y", "dpaiop.4", "dpaiop", "dpmcp.1"]
    let machine := (((Simulator.empty Tile.fresh).withContainer "dprc.5" ⟨7⟩ names.tail).openGroup
      ⟨7⟩).2
    let platform := Simulator.platform ⟨[], []⟩
    let survey := machine.survey ⟨3⟩ names
    let ended := (DeviceSet.bind platform ⟨3⟩ ⟨7⟩).outcome ⟨machine, []⟩
    platform.Answers survey ⟨3⟩ ⟨7⟩ machine ∧
      survey.Names .companion "dpmcpx.23" 23 ∧ survey.Names .accelerator "dpaiop.4" 4 ∧
      ∃ devices, ended.1 = .ok devices ∧ survey.Bound devices := by
  intro names machine platform survey ended
  have answers : platform.Answers survey ⟨3⟩ ⟨7⟩ machine :=
    machine.answers_survey ⟨[], []⟩ ⟨3⟩ rfl
  have companion : survey.Names .companion "dpmcpx.23" 23 := by
    constructor <;> decide +kernel
  have accelerator : survey.Names .accelerator "dpaiop.4" 4 := by
    constructor <;> decide +kernel
  obtain ⟨-, -, -, decided, bound, -⟩ :=
    binding_decided_by_first_names platform survey ⟨3⟩ ⟨7⟩ ⟨machine, []⟩ answers
  obtain ⟨devices, came⟩ := decided.mpr
    ⟨_, _, _, _, ⟨4⟩, ⟨1, 1⟩, companion, accelerator, by decide +kernel, by decide +kernel⟩
  exact ⟨answers, companion, accelerator, devices, came, bound devices came⟩

end

end Passthrough
