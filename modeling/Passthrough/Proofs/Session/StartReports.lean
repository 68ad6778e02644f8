import Passthrough.Proofs.Journal.Asked
import Passthrough.Proofs.Stock.SessionCourse

set_option autoImplicit false

/-! What a start reports, on a platform that writes nothing itself. Most steps that can fail report
it; some do not, and what was asked for last tells which. A start adds an error exactly if
it fails at one of the others. -/

namespace Passthrough

variable {World Portal α β : Type}

namespace Session

/-- The failures of a start that nothing is reported of, by what was asked, the last first: the
group is not found, has no slot, or is not opened; its objects are not listed, or the name of
one has no number; and one of the two objects is not opened after that. -/
inductive Unreported : List Entry → DriverError → Prop where
  | unlocated {failure : DriverError} {earlier : List Entry} :
      Unreported (⟨.containerGroup, none, some failure⟩ :: earlier) failure
  | full {capacity : Nat} {earlier : List Entry} :
      Unreported (⟨.containerGroup, none, none⟩ :: earlier) (.capacityExceeded "group" capacity)
  | unopened {failure : DriverError} {earlier : List Entry} :
      Unreported (⟨.openGroup, none, some failure⟩ :: earlier) failure
  | unlisted {failure : DriverError} {earlier : List Entry} :
      Unreported (⟨.groupDevices, none, some failure⟩ :: earlier) failure
  | unnumbered {name : String} {earlier : List Entry} :
      Unreported (⟨.groupDevices, none, none⟩ :: earlier) (.invalidDeviceName name)
  | accelerator {group : Option Int} {failure : DriverError} {earlier : List Entry} :
      Unreported (⟨.deviceFd, group, some failure⟩ :: ⟨.groupDevices, none, none⟩ :: earlier) failure
  | companion {group device : Option Int} {failure : DriverError} {earlier : List Entry} :
      Unreported (⟨.deviceFd, group, some failure⟩ :: ⟨.deviceInfo, device, none⟩ :: earlier) failure

/-- An error was added exactly if this is a failure of another kind. -/
def Diagnosed (result : Result α) (asked : List Entry) (alarm : Bool) : Prop :=
  alarm = true ↔ ∃ failure, result = .error failure ∧ ¬ Unreported asked failure

namespace Diagnosed

variable {value : α} {failure : DriverError} {asked : List Entry} {alarm : Bool}

theorem done : Diagnosed (.ok value) asked false :=
  ⟨nofun, nofun⟩

theorem silently (unreported : Unreported asked failure) :
    Diagnosed (.error failure : Result α) asked false := by
  refine ⟨nofun, ?_⟩
  rintro ⟨_, ⟨⟩, reported⟩
  exact absurd unreported reported

theorem reported (known : ¬ Unreported asked failure) :
    Diagnosed (.error failure : Result α) asked true :=
  ⟨fun _ => ⟨failure, rfl, known⟩, fun _ => rfl⟩

theorem unalarmed (diagnosed : Diagnosed (.ok value) asked alarm) : alarm = false := by
  cases alarm with
  | false => rfl
  | true =>
      obtain ⟨_, ⟨⟩, _⟩ := diagnosed.mp rfl

theorem passed (diagnosed : Diagnosed (.error failure : Result α) asked alarm) :
    Diagnosed (.error failure : Result β) asked alarm := by
  refine diagnosed.trans ⟨?_, ?_⟩
  · rintro ⟨_, ⟨⟩, reported⟩
    exact ⟨failure, rfl, reported⟩
  · rintro ⟨_, ⟨⟩, reported⟩
    exact ⟨failure, rfl, reported⟩

end Diagnosed

end Session

open Session (Unreported Diagnosed)

/-! ### Steps of a start -/

def Act.Diagnoses (action : Act (Journal World) α) (journal : Journal World)
    (done : α → Journal World → Prop) : Prop :=
  action.Notes journal fun result after alarm => Diagnosed result after.asked alarm ∧
    ∀ value, result = .ok value → done value after

namespace Act.Diagnoses

variable {journal : Journal World} {operation : Operation} {subject : Option Int}

theorem pure {value : α} {done : α → Journal World → Prop} (holds : done value journal) :
    Act.Diagnoses (Pure.pure value) journal done := by
  refine Act.Notes.pure ⟨.done, ?_⟩
  rintro _ ⟨⟩
  exact holds

theorem andThen {action : Act (Journal World) α} {next : α → Act (Journal World) β}
    {middle : α → Journal World → Prop} {done : β → Journal World → Prop}
    (first : action.Diagnoses journal middle)
    (rest : ∀ value reached, middle value reached → (next value).Diagnoses reached done) :
    Act.Diagnoses (action >>= next) journal done := by
  refine Act.Notes.andThen first ?_ ?_
  · intro failure reached alarm known
    exact ⟨known.1.passed, nofun⟩
  · intro value reached alarm known
    cases known.1.unalarmed
    exact rest value reached (known.2 value rfl)

theorem cleaned {action : Act (Journal World) α} {clean : DriverError → Logged (Journal World) Unit}
    {done : α → Journal World → Prop} (first : action.Diagnoses journal done)
    (cleans : ∀ failure asked, (clean failure).Upholds fun journal => journal.asked = asked) :
    (action.onFailure clean).Diagnoses journal done := by
  refine Act.Notes.onFailure first ?_ fun _ _ _ known => known
  intro failure reached alarm known
  refine (cleans failure reached.asked reached rfl).mono ?_
  rintro _ after _ ⟨rfl, same⟩
  rw [Bool.or_false, same]
  exact ⟨known.1, nofun⟩

theorem silently {action : Act World α} (quiet : action.outcome.Quiet)
    (plain : operation.releases = false)
    (unreported : ∀ failure,
      Unreported (⟨operation, subject, some failure⟩ :: journal.asked) failure) :
    (Journal.act operation subject action).Diagnoses journal fun _ after =>
      after.asked = ⟨operation, subject, none⟩ :: journal.asked := by
  refine (Journal.notes_asked quiet plain journal).mono ?_
  rintro result after _ ⟨rfl, same⟩
  cases result with
  | ok value => exact ⟨.done, fun _ _ => same⟩
  | error failure =>
      refine ⟨.silently ?_, nofun⟩
      rw [same]
      exact unreported failure

theorem reported {action : Act (Journal World) α}
    {clean : DriverError → Logged (Journal World) Unit}
    {middle : Result α → Journal World → Prop} {done : α → Journal World → Prop}
    (first : action.Notes journal fun result after alarm => alarm = false ∧ middle result after)
    (known : ∀ failure reached, middle (.error failure) reached →
      ¬ Unreported reached.asked failure)
    (cleans : ∀ failure reached, middle (.error failure) reached →
      (clean failure).Notes reached fun _ after alarm =>
        alarm = true ∧ after.asked = reached.asked)
    (holds : ∀ value reached, middle (.ok value) reached → done value reached) :
    (action.onFailure clean).Diagnoses journal done := by
  refine Act.Notes.onFailure first ?_ ?_
  · rintro failure reached _ ⟨rfl, failed⟩
    refine (cleans failure reached failed).mono ?_
    rintro _ after _ ⟨rfl, same⟩
    rw [same]
    exact ⟨.reported (known failure reached failed), nofun⟩
  · rintro value reached _ ⟨rfl, passed⟩
    refine ⟨.done, ?_⟩
    rintro _ ⟨⟩
    exact holds value reached passed

end Act.Diagnoses

/-! ### The group -/

def Operation.attaches : Operation → Bool
  | .groupViable | .setContainer | .openContainer | .apiVersion | .hasType1Iommu | .setIommu => true
  | _ => false

theorem Operation.releases_of_attaches {operation : Operation}
    (attaches : operation.attaches = true) : operation.releases = false := by
  cases operation <;> first | rfl | cases attaches

/-- What was asked for last was part of attaching a group. Whatever fails then is reported. -/
def Journal.Attaching (asked : List Entry) : Prop :=
  ∃ entry earlier, asked = entry :: earlier ∧ entry.operation.attaches = true

namespace Journal.Attaching

variable {asked : List Entry}

theorem reported (attaching : Attaching asked) (failure : DriverError) :
    ¬ Unreported asked failure := by
  obtain ⟨entry, earlier, rfl, attaches⟩ := attaching
  intro unreported
  cases unreported <;> cases attaches

theorem reportedNext (attaching : Attaching asked) (group : Option Int) (failure : DriverError) :
    ¬ Unreported (⟨.deviceFd, group, some failure⟩ :: asked) failure := by
  obtain ⟨entry, earlier, rfl, attaches⟩ := attaching
  intro unreported
  cases unreported <;> cases attaches

end Journal.Attaching

theorem Journal.attaching_act {operation : Operation} {subject : Option Int} {action : Act World α}
    (quiet : action.outcome.Quiet) (attaches : operation.attaches = true)
    (journal : Journal World) :
    (act operation subject action).Notes journal fun _ after alarm =>
      alarm = false ∧ Attaching after.asked := by
  refine (notes_asked quiet (Operation.releases_of_attaches attaches) journal).mono ?_
  rintro result after alarm ⟨quiet, same⟩
  exact ⟨quiet, _, _, same, attaches⟩

namespace Platform.Silent

variable {platform : Platform World Portal}

theorem upholds_attaching {operation : Operation} {subject : Option Int} {action : Act World α}
    (quiet : action.outcome.Quiet) (attaches : operation.attaches = true) :
    (Journal.act operation subject action).Upholds
      fun journal => Journal.Attaching journal.asked :=
  fun journal _ => Journal.attaching_act quiet attaches journal

theorem upholds_join (silent : platform.Silent) (descriptor : GroupFd)
    (containers : List (Nat × ContainerSlot)) :
    (Pool.join platform.journaled descriptor containers).Upholds
      fun journal => Journal.Attaching journal.asked := by
  induction containers with
  | nil => exact .pure _
  | cons entry rest ih =>
      obtain ⟨index, container⟩ := entry
      unfold Pool.join
      refine Logged.Upholds.bind
        (upholds_attaching (silent.setContainer descriptor container.descriptor) rfl)
        fun result => ?_
      cases result with
      | ok _ => exact .pure _
      | error failure => exact ih

theorem upholds_attachFresh (silent : platform.Silent) (descriptor : GroupFd)
    (container : ContainerFd) :
    (Pool.attachFresh platform.journaled descriptor container).Upholds
      fun journal => Journal.Attaching journal.asked := by
  unfold Pool.attachFresh
  refine Act.Upholds.bind (upholds_attaching (silent.apiVersion container) rfl) fun version => ?_
  split
  · exact .throwThen _ _
  refine Act.Upholds.bind (upholds_attaching (silent.hasType1Iommu container) rfl)
    fun present => ?_
  split
  · exact .throwThen _ _
  · exact upholds_attaching (silent.setContainer descriptor container) rfl

theorem upholds_openContainer (silent : platform.Silent) (group : GroupId)
    (descriptor : GroupFd) :
    (Pool.openContainer platform.journaled group descriptor).Upholds
      fun journal => Journal.Attaching journal.asked := by
  unfold Pool.openContainer
  refine Act.Upholds.bind (upholds_attaching silent.openContainer rfl) fun container => ?_
  have closes := silent.upholds_closeQuietly Journal.Attaching container
  refine Act.Upholds.bind ?_ fun _ => Act.Upholds.bind ?_ fun _ => .pure _
  · exact (silent.upholds_attachFresh descriptor container).onFailure fun _ => closes
  · refine Act.Upholds.onFailure (upholds_attaching (silent.setIommu container) rfl) fun _ => ?_
    exact (silent.upholds_retract Journal.Attaching group descriptor).bind fun _ => closes

theorem attach_notes (silent : platform.Silent) (pool : Pool) (group : GroupId)
    (descriptor : GroupFd) (index : Nat) (journal : Journal World) :
    (pool.attach platform.journaled group descriptor index).Notes journal fun _ after alarm =>
      alarm = false ∧ Journal.Attaching after.asked := by
  have viable : (Pool.requireViable platform.journaled group descriptor).outcome.Notes journal
      fun _ after alarm => alarm = false ∧ Journal.Attaching after.asked := by
    unfold Pool.requireViable
    rw [Act.outcome_bind]
    refine Logged.Notes.harmlessThen
      (Journal.attaching_act (silent.groupViable descriptor) rfl journal) ?_
    intro result reached attaching
    cases result with
    | error failure => exact Logged.Notes.pure ⟨rfl, attaching⟩
    | ok viable =>
        dsimp only
        split
        · exact Act.Notes.throw ⟨rfl, attaching⟩
        · exact Act.Notes.pure ⟨rfl, attaching⟩
  unfold Pool.attach
  refine Logged.Notes.harmlessThen viable fun result reached attaching => ?_
  cases result with
  | error failure => exact Logged.Notes.pure ⟨rfl, attaching⟩
  | ok _ =>
      refine Logged.Upholds.bind (silent.upholds_join descriptor pool.roomy) ?_ reached attaching
      intro joined
      split
      · exact .pure _
      split
      · exact .pure _
      split
      · exact .pure _
      refine Logged.Upholds.bind (silent.upholds_openContainer group descriptor) fun opened => ?_
      cases opened with
      | error failure => exact .pure _
      | ok container => exact .pure _

/-- A group is acquired in such a way that the next refusal to open a device is reported. -/
theorem acquire_notes (silent : platform.Silent) (pool : Pool) (group : GroupId)
    {journal : Journal World} {earlier : List Entry}
    (located : journal.asked = ⟨.containerGroup, none, none⟩ :: earlier) :
    (pool.acquire platform.journaled group).Notes journal fun ended after alarm =>
      Diagnosed ended.1 after.asked alarm ∧
        ∀ handle, ended.1 = .ok handle → ∀ descriptor failure,
          ¬ Unreported (⟨.deviceFd, descriptor, some failure⟩ :: after.asked) failure := by
  unfold Pool.acquire
  split
  · -- The pool owns the group already, so that locating it is still the last that was asked.
    refine Logged.Notes.pure ⟨.done, ?_⟩
    rintro _ - descriptor failure unreported
    rw [located] at unreported
    cases unreported
  split
  · refine Logged.Notes.pure ⟨.silently ?_, nofun⟩
    rw [located]
    exact .full
  · next slot _ =>
    refine Logged.Notes.harmlessThen (Journal.notes_asked (silent.openGroup group) rfl journal) ?_
    intro result opened same
    cases result with
    | error failure =>
        refine Logged.Notes.pure ⟨.silently ?_, nofun⟩
        rw [same]
        exact .unopened
    | ok descriptor =>
        refine Logged.Notes.harmlessThen (silent.attach_notes pool group descriptor slot opened) ?_
        intro ended attached attaching
        obtain ⟨result, left⟩ := ended
        cases result with
        | error failure =>
            have closes := silent.upholds_closeQuietly Journal.Attaching descriptor
            refine Logged.Notes.afterError ?_
            refine Logged.Notes.harmlessThen (closes attached attaching) ?_
            intro _ closed attaching
            exact Logged.Notes.pure ⟨.reported (attaching.reported failure), nofun⟩
        | ok place =>
            refine Logged.Notes.pure ⟨.done, ?_⟩
            intro handle _ descriptor failure
            exact attaching.reportedNext descriptor failure

/-! ### The objects -/

theorem first_diagnoses (role : DeviceRole) (group : GroupId) (names : List String)
    {journal : Journal World} {earlier : List Entry}
    (listed : journal.asked = ⟨.groupDevices, none, none⟩ :: earlier) :
    (DeviceSet.first role group names : Act (Journal World) DeviceRecord).Diagnoses journal
      fun _ after => after.asked = ⟨.groupDevices, none, none⟩ :: earlier := by
  have ignores (chosen : String) (names : List String) :
      (DeviceSet.reportIgnored role chosen names : Logged (Journal World) Unit).Upholds
        fun journal => journal.asked = ⟨.groupDevices, none, none⟩ :: earlier := by
    induction names with
    | nil => exact .pure _
    | cons name rest ih => exact (Logged.Upholds.warning _).bind fun _ => ih
  unfold DeviceSet.first
  cases DeviceSet.candidates role names with
  | nil =>
      have missing : (Logged.error
          s!"No {role.objectClass} object in IOMMU group {group.message}").Notes journal
            fun _ after alarm => alarm = true ∧ after = journal := Logged.Notes.error ⟨rfl, rfl⟩
      refine Act.Notes.andThenLogged missing ?_
      rintro _ _ _ ⟨rfl, rfl⟩
      refine Act.Notes.throw ⟨.reported ?_, nofun⟩
      rw [listed]
      intro unreported
      cases unreported
  | cons name extras =>
      refine Act.Notes.andThenLogged (ignores name extras journal listed) ?_
      rintro _ reached _ ⟨rfl, listed⟩
      cases ObjectName.number? name with
      | some number => exact Act.Diagnoses.pure listed
      | none =>
          refine Act.Notes.throw ⟨.silently ?_, nofun⟩
          rw [listed]
          exact .unnumbered

theorem bind_diagnoses (silent : platform.Silent) (descriptor : GroupFd) (group : GroupId)
    (journal : Journal World) :
    (DeviceSet.bind platform.journaled descriptor group).Diagnoses journal fun _ after =>
      ∃ device earlier, after.asked = ⟨.deviceInfo, device, none⟩ :: earlier := by
  unfold DeviceSet.bind
  refine Act.Diagnoses.andThen
    (Act.Diagnoses.silently (silent.groupDevices group) rfl fun _ => .unlisted) ?_
  intro names reached listed
  refine Act.Diagnoses.andThen (first_diagnoses .companion group names listed) ?_
  intro companion reached listed
  refine Act.Diagnoses.andThen (first_diagnoses .accelerator group names listed) ?_
  intro accelerator reached listed
  have opens : (platform.journaled.deviceFd descriptor accelerator.name).Diagnoses reached
      fun _ after => after.asked = ⟨.deviceFd, some descriptor.number, none⟩ :: reached.asked := by
    refine Act.Diagnoses.silently (silent.deviceFd descriptor accelerator.name) rfl ?_
    intro failure
    rw [listed]
    exact .accelerator
  refine Act.Diagnoses.andThen opens ?_
  intro device opened _
  have queries : ((platform.journaled.deviceInfo device).onFailure fun failure => do
        Logged.error s!"Cannot query {accelerator.name}: {failure.message}"
        platform.journaled.closeQuietly device).Diagnoses opened fun _ after =>
      ∃ device earlier, after.asked = ⟨.deviceInfo, device, none⟩ :: earlier := by
    refine Act.Diagnoses.reported
      (Journal.notes_asked (silent.deviceInfo device) rfl opened) ?_ ?_ ?_
    · intro failure queried same unreported
      rw [same] at unreported
      cases unreported
    · intro failure queried same
      refine Logged.Notes.afterError ?_
      have closes := silent.upholds_closeQuietly (· = queried.asked) device
      exact (closes queried rfl).mono fun _ _ _ known => ⟨rfl, known.2⟩
    · intro metadata queried same
      exact ⟨_, _, same⟩
  refine Act.Diagnoses.andThen queries ?_
  intro metadata queried known
  exact Act.Diagnoses.pure known

theorem mapCompanion_diagnoses (silent : platform.Silent) (group : GroupFd)
    (companion : DeviceRecord) {journal : Journal World} {device : Option Int}
    {earlier : List Entry} (queried : journal.asked = ⟨.deviceInfo, device, none⟩ :: earlier) :
    (Session.mapCompanion platform.journaled group companion).Diagnoses journal fun _ after =>
      ∃ device earlier, after.asked = ⟨.mapPortal, device, none⟩ :: earlier := by
  unfold Session.mapCompanion
  have opens : (platform.journaled.deviceFd group companion.name).Diagnoses journal
      fun _ after => after.asked = ⟨.deviceFd, some group.number, none⟩ :: journal.asked := by
    refine Act.Diagnoses.silently (silent.deviceFd group companion.name) rfl ?_
    intro failure
    rw [queried]
    exact .companion
  refine Act.Diagnoses.andThen opens ?_
  intro descriptor opened _
  refine Act.Notes.andThenLogged
    (Journal.notes_asked (silent.mapPortal descriptor) rfl opened) ?_
  rintro mapped reached _ ⟨rfl, same⟩
  have closes := silent.upholds_closeQuietly (· = reached.asked) descriptor
  refine Act.Notes.andThenLogged (closes reached rfl) ?_
  rintro _ closed _ ⟨rfl, still⟩
  rw [same] at still
  have offered : (Act.ofResult mapped : Act (Journal World) Portal).Notes closed
      fun result after alarm => alarm = false ∧ result = mapped ∧ after = closed :=
    Act.Notes.ofResult ⟨rfl, rfl, rfl⟩
  refine Act.Diagnoses.reported offered ?_ ?_ ?_
  · rintro failure _ ⟨-, rfl⟩ unreported
    rw [still] at unreported
    cases unreported
  · rintro failure reached -
    exact Logged.Notes.error ⟨rfl, rfl⟩
  · rintro portal _ ⟨rfl, rfl⟩
    exact ⟨_, _, still⟩

/-! ### The whole start -/

theorem upholds_probe (fine : List Entry → Prop) (silent : platform.Silent)
    (session : Session Portal) :
    (session.probe platform.journaled).Upholds fun journal => fine journal.asked := by
  have asks (call : Call) : (platform.journaled.request session.portal call).Upholds
      fun journal => fine journal.asked :=
    Journal.upholds_aside (silent.request session.portal call)
  unfold Session.probe
  refine Act.Upholds.bind (asks _) fun token => Act.Upholds.ofLogged ?_
  refine Logged.Upholds.bind (asks (.attributes token)) fun attributes => ?_
  split
  · refine Logged.Upholds.bind (asks (.closeSession token)) fun closed => ?_
    split
    · exact .pure _
    · exact .warning _
  · refine Logged.Upholds.bind (.warning _) fun _ => ?_
    refine Logged.Upholds.bind (asks (.closeSession token)) fun closed => ?_
    split
    · exact .pure _
    · exact .warning _

theorem abandon_notes (silent : platform.Silent) {session : Session Portal}
    (pageless : session.dma.interruptPage = none) (failure : DriverError)
    (journal : Journal World) :
    (session.abandon platform.journaled failure).Notes journal fun _ after alarm =>
      alarm = true ∧ after.asked = journal.asked := by
  unfold Session.abandon
  refine Logged.Notes.afterError ?_
  refine Logged.Notes.harmlessThen
    (silent.release_notes (· = journal.asked) pageless rfl) ?_
  rintro ⟨outcome, gone⟩ reached ⟨same, released⟩
  have dropped : (gone.drop platform.journaled).Notes reached fun _ after _ =>
      true = true ∧ after.asked = journal.asked :=
    (silent.upholds_drop (· = journal.asked) released reached same).mono
      fun _ _ _ known => ⟨rfl, known.2⟩
  cases outcome with
  | ok _ => exact dropped
  | error failure => exact Logged.Notes.afterWarning dropped

theorem containerDevice_diagnoses (silent : platform.Silent) (pool : Pool) (handle : GroupHandle)
    (container : ContainerName) {journal : Journal World}
    (reports : ∀ descriptor failure,
      ¬ Unreported (⟨.deviceFd, descriptor, some failure⟩ :: journal.asked) failure) :
    ((platform.journaled.deviceFd handle.descriptor container.text).onFailure fun failure => do
      Logged.error s!"Cannot open container object {container.text}: {failure.message}"
      Session.returnGroup platform.journaled pool handle).Diagnoses journal fun _ _ => True := by
  have opens := silent.deviceFd handle.descriptor container.text
  refine Act.Diagnoses.reported (Journal.notes_asked opens rfl journal) ?_ ?_ ?_
  · intro failure opened same
    rw [same]
    exact reports _ failure
  · intro failure opened same
    refine Logged.Notes.afterError ?_
    have returns := silent.upholds_returnGroup (· = opened.asked) pool handle
    exact (returns opened rfl).mono fun _ _ _ known => ⟨rfl, known.2⟩
  · intro device opened same
    trivial

theorem probe_diagnoses (silent : platform.Silent) {session : Session Portal}
    (pageless : session.dma.interruptPage = none) {journal : Journal World}
    {device : Option Int} {earlier : List Entry}
    (mapped : journal.asked = ⟨.mapPortal, device, none⟩ :: earlier) :
    ((session.probe platform.journaled).onFailure fun failure =>
      session.abandon platform.journaled failure).Diagnoses journal fun _ _ => True := by
  have probes := upholds_probe (· = journal.asked) silent session journal rfl
  refine Act.Diagnoses.reported probes ?_ ?_ ?_
  · intro failure probed same unreported
    rw [same, mapped] at unreported
    cases unreported
  · intro failure probed _
    exact silent.abandon_notes pageless failure probed
  · intro _ probed _
    trivial

theorem bring_diagnoses (silent : platform.Silent) (pool : Pool) (handle : GroupHandle)
    (group : GroupId) (container : ContainerName) {journal : Journal World}
    (reports : ∀ descriptor failure,
      ¬ Unreported (⟨.deviceFd, descriptor, some failure⟩ :: journal.asked) failure) :
    (Session.bring platform.journaled pool handle group container).Diagnoses journal
      fun _ _ => True := by
  unfold Session.bring
  have returns (asked : List Entry) := silent.upholds_returnGroup (· = asked) pool handle
  refine Act.Diagnoses.andThen (silent.containerDevice_diagnoses pool handle container reports) ?_
  intro containerDevice opened _
  have gives (asked : List Entry) :=
    (silent.upholds_closeQuietly (· = asked) containerDevice).bind fun _ => returns asked
  refine Act.Diagnoses.andThen
    ((silent.bind_diagnoses handle.descriptor group opened).cleaned fun _ asked => gives asked) ?_
  rintro devices bound ⟨device, earlier, queried⟩
  have maps := silent.mapCompanion_diagnoses handle.descriptor devices.companion queried
  refine Act.Diagnoses.andThen (maps.cleaned fun _ asked =>
    (silent.upholds_closeBound (· = asked) devices).bind fun _ => gives asked) ?_
  rintro portal reached ⟨window, before, mapped⟩
  refine Act.Diagnoses.andThen (silent.probe_diagnoses rfl mapped) ?_
  intro _ probed _
  exact Act.Diagnoses.pure trivial

theorem start_diagnoses (silent : platform.Silent) (pool : Pool) (container : ContainerName)
    (journal : Journal World) :
    (Session.start platform.journaled pool container).Diagnoses journal fun _ _ => True := by
  rw [Session.start_eq]
  have locates : (platform.journaled.containerGroup container).Diagnoses journal fun _ after =>
      after.asked = ⟨.containerGroup, none, none⟩ :: journal.asked :=
    Act.Diagnoses.silently (silent.containerGroup container) rfl fun _ => .unlocated
  refine Act.Diagnoses.andThen locates ?_
  intro group reached located
  refine Act.Notes.andThenLogged (silent.acquire_notes pool group located) ?_
  rintro ⟨acquired, pool⟩ taken alarm ⟨diagnosed, reports⟩
  have given : (Act.ofResult acquired : Act (Journal World) GroupHandle).Notes taken
      fun result after later => later = false ∧ result = acquired ∧ after = taken :=
    Act.Notes.ofResult ⟨rfl, rfl, rfl⟩
  refine Act.Notes.andThen given ?_ ?_
  · rintro failure _ _ ⟨rfl, rfl, rfl⟩
    rw [Bool.or_false]
    exact ⟨diagnosed.passed, fun _ _ => trivial⟩
  · rintro handle _ _ ⟨rfl, rfl, rfl⟩
    cases diagnosed.unalarmed
    exact silent.bring_diagnoses pool handle group container (reports handle rfl)

end Platform.Silent

end Passthrough
