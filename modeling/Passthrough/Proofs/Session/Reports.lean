import Passthrough.Proofs.Platform.Silent
import Passthrough.Session.Load

set_option autoImplicit false

/-! What the operations of a running session report, on a platform that writes nothing itself. Calls
under a firmware session add an error exactly if they fail, whichever of opening, calling and
closing fails. A load reports at the end that it failed, after what was reported on the way;
a load that succeeds may have reported trouble with the interrupt page. -/

namespace Passthrough

variable {World Portal α : Type}

namespace Platform.Silent

variable {platform : Platform World Portal}

theorem withChannel_notes (silent : platform.Silent) (session : Session Portal)
    (operation : String) {calls : Token → Act World α}
    (warns : ∀ token, (calls token).outcome.Warns) (world : World) :
    (session.withChannel platform operation calls).Notes world
      fun ended _ alarm => alarm = ended.1.failure?.isSome := by
  unfold Session.withChannel
  refine Logged.Notes.warnsThen ((silent.request session.portal _).writes _) ?_
  intro result opened
  cases result with
  | error failure => exact Logged.Notes.afterError (Logged.Notes.pure rfl)
  | ok token =>
      refine Logged.Notes.warnsThen (warns token) ?_
      intro result called
      have closes := (silent.request session.portal (.closeSession token)).writes (· = .warning)
      cases result with
      | ok value =>
          refine Logged.Notes.warnsThen closes ?_
          intro closed left
          cases closed with
          | ok _ => exact Logged.Notes.pure rfl
          | error failure => exact Logged.Notes.afterError (Logged.Notes.pure rfl)
      | error earlier =>
          refine Logged.Notes.afterError (Logged.Notes.warnsThen closes ?_)
          intro closed left
          cases closed with
          | ok _ => exact Logged.Notes.pure rfl
          | error failure => exact Logged.Notes.afterError (Logged.Notes.pure rfl)

theorem status_notes (silent : platform.Silent) (session : Session Portal) (world : World) :
    (session.status platform).Notes world
      fun ended _ alarm => alarm = ended.1.failure?.isSome := by
  refine silent.withChannel_notes session _ (fun token => ?_) world
  have asks (call : Call) := (silent.request session.portal call).writes (· = .warning)
  refine (asks (.attributes token)).bindAct fun attributes => ?_
  refine (asks (.serviceLayerVersion token)).bindAct fun serviceLayer => ?_
  exact (asks (.state token)).bindAct fun state => .pure _

theorem reset_notes (silent : platform.Silent) (session : Session Portal) (world : World) :
    (session.reset platform).Notes world fun ended _ alarm => alarm = ended.1.failure?.isSome :=
  silent.withChannel_notes session "reset"
    (fun token => (silent.request session.portal (.reset token)).writes _) world

theorem timeOfDay_notes (silent : platform.Silent) (session : Session Portal) (world : World) :
    (session.timeOfDay platform).Notes world
      fun ended _ alarm => alarm = ended.1.failure?.isSome :=
  silent.withChannel_notes session "get_time_of_day"
    (fun token => (silent.request session.portal (.timeOfDay token)).writes _) world

theorem setTimeOfDay_notes (silent : platform.Silent) (session : Session Portal) (time : UInt64)
    (world : World) : (session.setTimeOfDay platform time).Notes world
      fun ended _ alarm => alarm = ended.1.failure?.isSome :=
  silent.withChannel_notes session "set_time_of_day"
    (fun token => (silent.request session.portal (.setTimeOfDay token time)).writes _) world

theorem resetFirst_warns (silent : platform.Silent) (session : Session Portal) (token : Token) :
    (session.resetFirst platform token).Warns := by
  unfold Session.resetFirst
  refine ((silent.request session.portal _).writes _).bind fun result => ?_
  cases result with
  | ok _ => exact .pure _
  | error failure => exact .warning _

theorem loadAndRun_notes (silent : platform.Silent) (session : Session Portal) (reset : Bool)
    (load : LoadConfig) (run : RunConfig) (world : World) :
    (session.loadAndRun platform reset load run).Notes world
      fun ended _ alarm => alarm = ended.1.failure?.isSome := by
  refine silent.withChannel_notes session _ (fun token => ?_) world
  have starts := Logged.Writes.bindAct
    ((silent.request session.portal (.load token load)).writes (· = .warning))
    fun _ => (silent.request session.portal (.run token run)).writes _
  cases reset with
  | false => exact starts
  | true => exact (silent.resetFirst_warns session token).bind fun _ => starts

theorem closeQuietly_warns (silent : platform.Silent) {kind : DescriptorKind}
    (descriptor : Descriptor kind) : (platform.closeQuietly descriptor).Warns := by
  unfold Platform.closeQuietly
  refine ((silent.close descriptor).writes _).bind fun result => ?_
  cases result with
  | ok _ => exact .pure _
  | error failure => exact .warning _

theorem unmapInterruptPage_grows (silent : platform.Silent) (page : HostAddress) :
    (DmaSpace.unmapInterruptPage platform page).Grows := by
  unfold DmaSpace.unmapInterruptPage
  refine ((silent.unmap page _).writes _).bind fun result => ?_
  cases result with
  | ok _ => exact .pure _
  | error failure => exact .note trivial _

theorem releaseInterruptPage_grows (silent : platform.Silent) (space : DmaSpace) :
    (space.releaseInterruptPage platform).Grows := by
  unfold DmaSpace.releaseInterruptPage
  cases space.interruptPage with
  | none => exact .pure _
  | some page =>
      refine ((silent.unmapDma space.container _ _).writes _).bind fun result => ?_
      have unmaps := (silent.unmapInterruptPage_grows page).bind fun _ =>
        .pure { space with interruptPage := none }
      cases result with
      | ok _ => exact unmaps
      | error failure => exact .afterNote trivial unmaps

theorem ensureInterruptPage_grows (silent : platform.Silent) (space : DmaSpace) :
    (space.ensureInterruptPage platform).Grows := by
  unfold DmaSpace.ensureInterruptPage
  cases space.interruptPage with
  | some page => exact .pure _
  | none =>
      refine ((silent.mapDevice space.interruptSource _ _).writes _).bind fun result => ?_
      cases result with
      | error failure => exact .afterNote trivial (.pure _)
      | ok page =>
          refine ((silent.mapDma space.container page _ _).writes _).bind fun result => ?_
          cases result with
          | ok _ => exact .pure _
          | error failure =>
              exact .afterNote trivial
                ((silent.unmapInterruptPage_grows page).bind fun _ => .pure _)

theorem register_grows (silent : platform.Silent) (space : DmaSpace) (address : HostAddress)
    (length : Nat) : (space.register platform address length).Grows := by
  unfold DmaSpace.register
  refine ((silent.mapDma space.container address _ _).writes _).bind fun result => ?_
  cases result with
  | error failure => exact .pure _
  | ok _ => exact (silent.ensureInterruptPage_grows space).bind fun _ => .pure _

theorem unregister_grows (silent : platform.Silent) (space : DmaSpace)
    (registration : Registration) : (space.unregister platform registration).Grows := by
  unfold DmaSpace.unregister
  refine ((silent.unmapDma space.container _ _).writes _).bind fun result => ?_
  have releases := silent.releaseInterruptPage_grows space
  cases result with
  | ok _ => exact releases
  | error failure => exact .afterNote trivial releases

theorem stage_grows (silent : platform.Silent) (path : String) (length : Nat) :
    (Session.stage platform path length).outcome.Grows := by
  unfold Session.stage
  refine ((silent.openFile path).writes _).bindAct fun descriptor => ?_
  have closes := (silent.closeQuietly_warns descriptor).mono fun _ _ => trivial
  refine Logged.Writes.bindAct ?_ fun address => .pure _
  exact ((silent.mapFile descriptor length).writes _).onFailure fun _ => closes

theorem unstage_grows (silent : platform.Silent) (file : Session.StagedFile) :
    (Session.unstage platform file).Grows := by
  unfold Session.unstage
  refine ((silent.unmap file.address file.length).writes _).bind fun result => ?_
  have closes := (silent.closeQuietly_warns file.descriptor).mono fun _ _ => trivial
  cases result with
  | ok _ => exact closes
  | error failure => exact .afterNote trivial closes

theorem withStaged_grows (silent : platform.Silent) (session : Session Portal) (path : String)
    (length : Nat)
    {work : Session.StagedFile → Session Portal → Logged World (Result α × Session Portal)}
    (works : ∀ file session, (work file session).Grows) :
    (session.withStaged platform path length work).Grows := by
  unfold Session.withStaged
  refine (silent.stage_grows path length).bind fun result => ?_
  cases result with
  | error failure => exact .pure _
  | ok file =>
      refine (works file session).bind fun ended => ?_
      exact (silent.unstage_grows file).bind fun _ => .pure _

theorem withRegistered_grows (silent : platform.Silent) (session : Session Portal)
    (file : Session.StagedFile)
    {work : Registration → Session Portal → Logged World (Result α × Session Portal)}
    (works : ∀ registration session, (work registration session).Grows) :
    (session.withRegistered platform file work).Grows := by
  unfold Session.withRegistered
  refine (silent.register_grows session.dma file.address file.length).bind fun registered => ?_
  obtain ⟨result, space⟩ := registered
  cases result with
  | error failure => exact .pure _
  | ok registration =>
      refine (works registration _).bind fun ended => ?_
      exact (silent.unregister_grows ended.2.dma registration).bind fun _ => .pure _

theorem carryOut_grows (silent : platform.Silent) (session : Session Portal)
    (request : LoadRequest) (plan : LoadPlan) :
    (session.carryOut platform request plan).Grows := by
  have starts (session : Session Portal) (reset : Bool) (load : LoadConfig) (run : RunConfig) :
      (session.loadAndRun platform reset load run).Grows :=
    Logged.Notes.grows (silent.loadAndRun_notes session reset load run)
  unfold Session.carryOut
  refine silent.withStaged_grows _ _ _ fun image session => ?_
  split
  · refine silent.withStaged_grows _ _ _ fun arguments session => ?_
    refine silent.withRegistered_grows _ _ fun imageDma session => ?_
    exact silent.withRegistered_grows _ _ fun argumentsDma session => starts session _ _ _
  · exact silent.withRegistered_grows _ _ fun imageDma session => starts session _ _ _

theorem load_notes (silent : platform.Silent) (session : Session Portal) (files : Files.FileTree)
    (request : LoadRequest) (world : World) :
    (session.load platform files request).Notes world
      fun ended _ alarm => ended.1.failure?.isSome = true → alarm = true := by
  unfold Session.load
  cases request.plan files with
  | error failure => exact Logged.Notes.afterError (Logged.Notes.pure fun _ => rfl)
  | ok plan =>
      refine Logged.Notes.andThen ((silent.carryOut_grows session request plan).anyNotes world) ?_
      intro ended reached alarm _
      obtain ⟨result, left⟩ := ended
      cases result with
      | ok _ => exact Logged.Notes.pure nofun
      | error failure =>
          exact Logged.Notes.afterError (Logged.Notes.pure fun _ => Bool.or_true alarm)

end Platform.Silent

end Passthrough
