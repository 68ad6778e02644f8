import Passthrough.Proofs.Session.Tally
import Passthrough.Session.Start

set_option autoImplicit false

/-! What the operations of a session are to the machine: steps of it, some of which take
addresses. Addresses are given out only with mappings, and no mapping that a session makes
takes more of them than a staged file can. So it is enough to count mappings: a session
starts with one, a load makes four at most, and nothing else makes any. -/

namespace Passthrough

open Files (FileTree)
open Relation (ReflTransGen)
open Simulator (Step)

variable {α β : Type}

/-- However it ends, the operation is steps of the machine, and takes no more addresses than so
many staged files. -/
def Logged.Takes (action : Logged Simulator α) (mappings : Nat) : Prop :=
  ∀ sim, action.Yields sim fun _ after => ReflTransGen Step sim after ∧
    after.nextAddress ≤ sim.nextAddress + Staging.fileSpan * mappings

def Act.Takes (action : Act Simulator α) (mappings : Nat) : Prop :=
  action.outcome.Takes mappings

namespace Logged.Takes

variable {action : Logged Simulator α} {next : α → Logged Simulator β} {count more : Nat}

theorem pure (value : α) (count : Nat) : Takes (Pure.pure value) count :=
  fun _ => Yields.pure ⟨.refl, Nat.le_add_right _ _⟩

theorem note (severity : Severity) (text : String) (count : Nat) :
    Takes (Logged.note severity text) count :=
  fun _ => Yields.note ⟨.refl, Nat.le_add_right _ _⟩

theorem bind (first : action.Takes count) (rest : ∀ value, (next value).Takes more) :
    Takes (action >>= next) (more + count) := by
  intro sim
  refine Yields.andThen (first sim) ?_
  rintro value middle ⟨led, taken⟩
  refine (rest value middle).mono ?_
  rintro _ after ⟨onwards, further⟩
  refine ⟨led.trans onwards, ?_⟩
  rw [Nat.mul_add]
  omega

theorem mono (taken : action.Takes count) (fewer : count ≤ more) : action.Takes more := by
  intro sim
  refine (taken sim).mono ?_
  rintro _ after ⟨led, known⟩
  have wider := Nat.mul_le_mul_left Staging.fileSpan fewer
  exact ⟨led, by omega⟩

theorem skip (first : action.Takes 0) (rest : ∀ value, (next value).Takes count) :
    Takes (action >>= next) count :=
  first.bind rest

theorem last (first : action.Takes count) (rest : ∀ value, (next value).Takes 0) :
    Takes (action >>= next) count := by
  have both := first.bind rest
  rw [Nat.zero_add] at both
  exact both

theorem within (taken : action.Takes count) (few : count ≤ 4) (sim : Simulator)
    (log : List Diagnostic) :
    (action ⟨sim, log⟩).2.world.nextAddress ≤ sim.nextAddress + Staging.loadSpan := by
  obtain ⟨-, known⟩ := taken.mono few sim log
  rw [Nat.mul_comm] at known
  exact known

theorem reachable (taken : action.Takes count) {sim : Simulator} (reachable : sim.Reachable)
    (log : List Diagnostic) : (action ⟨sim, log⟩).2.world.Reachable :=
  reachable.steps (taken sim log).1

end Logged.Takes

namespace Act.Takes

variable {action : Act Simulator α} {next : α → Act Simulator β} {count more : Nat}

theorem pure (value : α) (count : Nat) : Act.Takes (Pure.pure value) count :=
  Logged.Takes.pure _ _

theorem throw (failure : DriverError) (count : Nat) :
    Act.Takes (MonadExcept.throw failure : Act Simulator α) count :=
  Logged.Takes.pure _ _

theorem throwThen (failure : DriverError) (next : α → Act Simulator β) (count : Nat) :
    Act.Takes (MonadExcept.throw failure >>= next) count :=
  Logged.Takes.pure _ _

theorem ofResult (result : Result α) (count : Nat) : (Act.ofResult result).Takes count :=
  Logged.Takes.pure _ _

theorem ofLogged {action : Logged Simulator α} (taken : action.Takes count) :
    (Act.ofLogged action).Takes count :=
  fun sim log => taken sim log

theorem ofStep {step : Simulator → Result α × Simulator} (next : ∀ sim, Step sim (step sim).2)
    (taken : ∀ sim, (step sim).2.nextAddress ≤ sim.nextAddress + Staging.fileSpan * count) :
    (Act.ofWorld step).Takes count :=
  fun sim _ => ⟨.single (next sim), taken sim⟩

theorem ofSteady {step : Simulator → Result α × Simulator} (next : ∀ sim, Step sim (step sim).2)
    (steady : ∀ sim, (step sim).2.nextAddress = sim.nextAddress) :
    (Act.ofWorld step).Takes 0 :=
  ofStep next fun sim => Nat.le_of_eq (steady sim)

theorem bind (first : action.Takes count) (rest : ∀ value, (next value).Takes more) :
    Act.Takes (action >>= next) (more + count) := by
  unfold Act.Takes
  rw [outcome_bind]
  refine Logged.Takes.bind first ?_
  intro result
  cases result with
  | ok value => exact rest value
  | error failure => exact Logged.Takes.pure _ _

theorem skip (first : action.Takes 0) (rest : ∀ value, (next value).Takes count) :
    Act.Takes (action >>= next) count :=
  first.bind rest

theorem last (first : action.Takes count) (rest : ∀ value, (next value).Takes 0) :
    Act.Takes (action >>= next) count := by
  have both := first.bind rest
  rw [Nat.zero_add] at both
  exact both

theorem onFailure (first : action.Takes count) {clean : DriverError → Logged Simulator Unit}
    (cleaned : ∀ failure, (clean failure).Takes 0) : (action.onFailure clean).Takes count := by
  unfold Act.Takes
  rw [outcome_onFailure]
  refine Logged.Takes.last first ?_
  intro result
  cases result with
  | ok value => exact Logged.Takes.pure _ _
  | error failure => exact (cleaned failure).skip fun _ => Logged.Takes.pure _ _

end Act.Takes

/-! ### The calls of the platform -/

namespace Simulator

variable (files : FileTree)

theorem takes_ask (question : Simulator → Result α) : (ask question).Takes 0 :=
  fun _ _ => ⟨.refl, Nat.le_refl _⟩

theorem takes_openGroup (group : GroupId) : ((platform files).openGroup group).Takes 0 := by
  apply Act.Takes.ofSteady fun _ => .openGroup group
  intro sim
  rw [openGroup_eq]
  repeat' split
  all_goals rfl

theorem takes_setContainer (group : GroupFd) (container : ContainerFd) :
    ((platform files).setContainer group container).Takes 0 := by
  apply Act.Takes.ofSteady fun _ => .setContainer group container
  intro sim
  rw [setContainer_eq]
  repeat' split
  all_goals rfl

theorem takes_unsetContainer (group : GroupFd) :
    ((platform files).unsetContainer group).Takes 0 := by
  apply Act.Takes.ofSteady fun _ => .unsetContainer group
  intro sim
  rw [unsetContainer_eq]
  split <;> rfl

theorem takes_openContainer : (platform files).openContainer.Takes 0 :=
  .ofSteady (fun _ => .openContainer) fun _ => rfl

theorem takes_setIommu (container : ContainerFd) :
    ((platform files).setIommu container).Takes 0 := by
  apply Act.Takes.ofSteady fun _ => .setIommu container
  intro sim
  rw [setIommu_eq]
  repeat' split
  all_goals rfl

theorem takes_deviceFd (group : GroupFd) (name : String) :
    ((platform files).deviceFd group name).Takes 0 := by
  apply Act.Takes.ofSteady fun _ => .deviceFd group name
  intro sim
  rw [deviceFd_eq]
  repeat' split
  all_goals rfl

theorem takes_mapDma (container : ContainerFd) (host : HostAddress) (device : DeviceAddress)
    (length : Nat) : ((platform files).mapDma container host device length).Takes 0 := by
  apply Act.Takes.ofSteady fun _ => .mapDma container host device length
  intro sim
  obtain ⟨buffers, counted⟩ := countRegistration_shape sim device
  rw [mapDma_eq, counted]
  dsimp only
  repeat' split
  all_goals rfl

theorem takes_unmapDma (container : ContainerFd) (device : DeviceAddress) (length : Nat) :
    ((platform files).unmapDma container device length).Takes 0 := by
  apply Act.Takes.ofSteady fun _ => .unmapDma container device length
  intro sim
  rw [unmapDma_eq]
  split <;> rfl

theorem takes_openFile (path : String) : ((platform files).openFile path).Takes 0 := by
  apply Act.Takes.ofSteady fun _ => .openFile files path
  intro sim
  rw [openFile_eq]
  repeat' split
  all_goals rfl

theorem takes_unmap (address : HostAddress) (length : Nat) :
    ((platform files).unmap address length).Takes 0 := by
  apply Act.Takes.ofSteady fun _ => .unmap address length
  intro sim
  rw [unmap_eq]
  split <;> rfl

theorem takes_close {kind : DescriptorKind} (descriptor : Descriptor kind) :
    ((platform files).close descriptor).Takes 0 := by
  apply Act.Takes.ofSteady fun _ => .close descriptor.number
  intro sim
  rw [close_eq]
  split
  · next object _ => cases object <;> rfl
  · rfl

theorem steps_submit (portal : HostAddress) (command : Command) (sim : Simulator) :
    ReflTransGen Step sim ((registers portal).submit command sim) := by
  have written (items : List (Fin Command.parameterCount)) (start : Simulator) :
      ReflTransGen Step start (items.foldl (fun sim (index : Fin Command.parameterCount) =>
        (registers portal).write (Command.parameterOffset index) (command.parameters.get index)
          sim) start) := by
    induction items generalizing start with
    | nil => exact .refl
    | cons head rest ih =>
        have wrote : Step start _ :=
          .writePortal portal (Command.parameterOffset head) (command.parameters.get head)
        exact .head wrote (ih _)
  exact (written _ sim).tail (.writePortal portal 0 command.header)

theorem takes_request (portal : HostAddress) (call : Call) :
    ((platform files).request portal call).Takes 0 := by
  intro sim log
  have submitted := (registers portal).send_of_inert (fun _ _ => rfl)
    Portal.PollConfig.standard call.name call.encode sim
  refine ⟨?_, ?_⟩
  · change ReflTransGen Step sim ((registers portal).send _ call.name call.encode sim).2
    rw [submitted]
    exact steps_submit portal call.encode sim
  · obtain ⟨portals, served, -⟩ :=
      request_registers portal Portal.PollConfig.standard (by decide) call sim
    change ((registers portal).request _ call sim).2.nextAddress ≤ sim.nextAddress + 0
    rw [served]
    change (sim.serve call).2.nextAddress ≤ sim.nextAddress + 0
    rw [(serve_change sim call).same]
    exact Nat.le_refl _

theorem takes_dropPortal (portal : HostAddress) :
    ((platform files).dropPortal portal).Takes 0 :=
  fun _ _ => ⟨.single (.dropPortal portal), Nat.le_refl _⟩

theorem takes_mapPortal (device : DeviceFd) : ((platform files).mapPortal device).Takes 1 := by
  apply Act.Takes.ofStep fun _ => .mapPortal device
  intro sim
  have small : mappedPages portalLength * 4096 ≤ Staging.fileSpan := by decide
  rw [mapPortal_eq]
  repeat' split
  all_goals first
    | exact Nat.le_add_right _ _
    | exact Nat.add_le_add_left small sim.nextAddress

theorem takes_mapFile (file : FileFd) {size : Nat} (short : size ≤ Staging.imageLimit) :
    ((platform files).mapFile file (Staging.stagedLength size)).Takes 1 := by
  apply Act.Takes.ofStep fun _ => .mapFile file _
  intro sim
  have small := Tally.mappedPages_stagedLength short
  rw [mapFile_eq]
  repeat' split
  all_goals first
    | exact Nat.le_add_right _ _
    | exact Nat.add_le_add_left small sim.nextAddress

theorem takes_mapInterruptPage (device : DeviceFd) (offset : UInt64) :
    ((platform files).mapDevice device offset Staging.interruptLength).Takes 1 := by
  apply Act.Takes.ofStep fun _ => .mapDevice device offset _
  intro sim
  have small : mappedPages Staging.interruptLength * 4096 ≤ Staging.fileSpan := by decide
  rw [mapDevice_eq]
  repeat' split
  all_goals first
    | exact Nat.le_add_right _ _
    | exact Nat.add_le_add_left small sim.nextAddress

theorem takes_closeQuietly {kind : DescriptorKind} (descriptor : Descriptor kind) :
    ((platform files).closeQuietly descriptor).Takes 0 := by
  unfold Platform.closeQuietly
  refine Logged.Takes.skip (takes_close files descriptor) ?_
  intro result
  cases result with
  | ok _ => exact .pure _ _
  | error failure => exact .note _ _ _

end Simulator

/-! ### Groups and objects -/

variable (files : FileTree)

namespace Pool

theorem takes_join (descriptor : GroupFd) (containers : List (Nat × ContainerSlot)) :
    (join (Simulator.platform files) descriptor containers).Takes 0 := by
  induction containers with
  | nil => exact .pure _ _
  | cons entry rest ih =>
      unfold join
      refine Logged.Takes.skip (Simulator.takes_setContainer files descriptor _) ?_
      intro result
      cases result with
      | ok _ => exact .pure _ _
      | error failure => exact ih

theorem takes_attachFresh (descriptor : GroupFd) (container : ContainerFd) :
    (attachFresh (Simulator.platform files) descriptor container).Takes 0 := by
  have reported : ((Simulator.platform files).apiVersion container).Takes 0 :=
    Simulator.takes_ask _
  have supports : ((Simulator.platform files).hasType1Iommu container).Takes 0 :=
    Simulator.takes_ask _
  unfold attachFresh
  apply reported.skip
  intro version
  split
  · exact .throwThen _ _ _
  apply supports.skip
  intro present
  split
  · exact .throwThen _ _ _
  · exact Simulator.takes_setContainer files descriptor container

theorem takes_retract (group : GroupId) (descriptor : GroupFd) :
    (retract (Simulator.platform files) group descriptor).Takes 0 := by
  unfold retract
  refine Logged.Takes.skip (Simulator.takes_unsetContainer files descriptor) ?_
  intro result
  cases result with
  | ok _ => exact .pure _ _
  | error failure => exact .note _ _ _

theorem takes_openContainer (group : GroupId) (descriptor : GroupFd) :
    (openContainer (Simulator.platform files) group descriptor).Takes 0 := by
  unfold openContainer
  apply Act.Takes.skip (Simulator.takes_openContainer files)
  intro container
  have closes := Simulator.takes_closeQuietly files container
  refine Act.Takes.skip ?_ fun _ => Act.Takes.skip ?_ fun _ => .pure _ _
  · exact (takes_attachFresh files descriptor container).onFailure fun _ => closes
  · apply (Simulator.takes_setIommu files container).onFailure
    intro _
    exact (takes_retract files group descriptor).skip fun _ => closes

theorem takes_requireViable (group : GroupId) (descriptor : GroupFd) :
    (requireViable (Simulator.platform files) group descriptor).Takes 0 := by
  have asked : ((Simulator.platform files).groupViable descriptor).Takes 0 := Simulator.takes_ask _
  unfold requireViable
  apply asked.skip
  intro viable
  split
  · exact .throw _ _
  · exact .pure _ _

theorem takes_attach (pool : Pool) (group : GroupId) (descriptor : GroupFd) (index : Nat) :
    (pool.attach (Simulator.platform files) group descriptor index).Takes 0 := by
  unfold attach
  apply Logged.Takes.skip (takes_requireViable files group descriptor)
  intro viable
  split
  · exact .pure _ _
  apply Logged.Takes.skip (takes_join files descriptor _)
  intro joined
  split
  · exact .pure _ _
  split
  · exact .pure _ _
  split
  · exact .pure _ _
  apply Logged.Takes.skip (takes_openContainer files group descriptor)
  intro opened
  split <;> exact .pure _ _

theorem takes_acquire (pool : Pool) (group : GroupId) :
    (pool.acquire (Simulator.platform files) group).Takes 0 := by
  unfold acquire
  split
  · exact .pure _ _
  split
  · exact .pure _ _
  apply Logged.Takes.skip (Simulator.takes_openGroup files group)
  intro opened
  split
  · exact .pure _ _
  · next descriptor =>
      apply (takes_attach files pool group descriptor _).skip
      intro attached
      split
      · apply Logged.Takes.skip (.note _ _ _)
        intro _
        exact (Simulator.takes_closeQuietly files descriptor).skip fun _ => .pure _ _
      · exact .pure _ _

theorem takes_leave (pool : Pool) (container group : Nat) :
    (pool.leave (Simulator.platform files) container group).Takes 0 := by
  unfold leave
  split
  · exact .pure _ _
  · dsimp only
    split
    · exact Logged.Takes.skip (Simulator.takes_close files _) fun _ => .pure _ _
    · exact .pure _ _

theorem takes_release (pool : Pool) (handle : GroupHandle) :
    (pool.release (Simulator.platform files) handle).Takes 0 := by
  unfold release
  split
  · exact Logged.Takes.skip (.note _ _ _) fun _ => .pure _ _
  · apply Logged.Takes.skip (Simulator.takes_unsetContainer files _)
    intro detached
    apply (takes_leave files _ _ _).skip
    intro left
    exact Logged.Takes.skip (Simulator.takes_close files _) fun closed => .pure _ _

end Pool

namespace DeviceSet

theorem takes_first (role : DeviceRole) (group : GroupId) (names : List String) :
    (first role group names : Act Simulator DeviceRecord).Takes 0 := by
  have reports (chosen : String) (names : List String) :
      (reportIgnored role chosen names : Logged Simulator Unit).Takes 0 := by
    induction names with
    | nil => exact .pure _ _
    | cons name rest ih => exact Logged.Takes.skip (.note _ _ _) fun _ => ih
  unfold first
  split
  · exact Act.Takes.skip (.ofLogged (.note _ _ _)) fun _ => .throw _ _
  · apply Act.Takes.skip (.ofLogged (reports _ _))
    intro _
    split
    · exact .pure _ _
    · exact .throw _ _

theorem takes_bind (descriptor : GroupFd) (group : GroupId) :
    (bind (Simulator.platform files) descriptor group).Takes 0 := by
  have listed : ((Simulator.platform files).groupDevices group).Takes 0 := Simulator.takes_ask _
  unfold bind
  apply listed.skip
  intro names
  apply (takes_first .companion group names).skip
  intro companion
  apply (takes_first .accelerator group names).skip
  intro accelerator
  apply Act.Takes.skip (Simulator.takes_deviceFd files descriptor _)
  intro device
  have queried : ((Simulator.platform files).deviceInfo device).Takes 0 := Simulator.takes_ask _
  refine Act.Takes.skip (queried.onFailure fun failure => ?_) fun metadata => .pure _ _
  exact Logged.Takes.skip (.note _ _ _) fun _ => Simulator.takes_closeQuietly files device

end DeviceSet

/-! ### Buffers -/

namespace DmaSpace

theorem takes_unmapInterruptPage (page : HostAddress) :
    (unmapInterruptPage (Simulator.platform files) page).Takes 0 := by
  unfold unmapInterruptPage
  apply Logged.Takes.skip (Simulator.takes_unmap files page _)
  intro unmapped
  split
  · exact .pure _ _
  · exact .note _ _ _

theorem takes_releaseInterruptPage (space : DmaSpace) :
    (space.releaseInterruptPage (Simulator.platform files)).Takes 0 := by
  unfold releaseInterruptPage
  split
  · exact .pure _ _
  · next page _ =>
      have unmaps : (unmapInterruptPage (Simulator.platform files) page >>= fun _ =>
          pure { space with interruptPage := none } : Logged Simulator DmaSpace).Takes 0 :=
        (takes_unmapInterruptPage files page).skip fun _ => .pure _ _
      apply Logged.Takes.skip (Simulator.takes_unmapDma files _ _ _)
      intro removed
      split
      · exact unmaps
      · exact Logged.Takes.skip (.note _ _ _) fun _ => unmaps

theorem takes_ensureInterruptPage (space : DmaSpace) :
    (space.ensureInterruptPage (Simulator.platform files)).Takes 1 := by
  unfold ensureInterruptPage
  split
  · exact .pure _ _
  apply Logged.Takes.last (Simulator.takes_mapInterruptPage files _ _)
  intro mapped
  split
  · exact Logged.Takes.skip (.note _ _ _) fun _ => .pure _ _
  apply Logged.Takes.skip (Simulator.takes_mapDma files _ _ _ _)
  intro registered
  split
  · exact .pure _ _
  · apply Logged.Takes.skip (.note _ _ _)
    intro _
    exact (takes_unmapInterruptPage files _).skip fun _ => .pure _ _

theorem takes_register (space : DmaSpace) (address : HostAddress) (length : Nat) :
    (space.register (Simulator.platform files) address length).Takes 1 := by
  unfold register
  apply Logged.Takes.skip (Simulator.takes_mapDma files _ _ _ _)
  intro registered
  split
  · exact .pure _ _
  · exact (takes_ensureInterruptPage files space).last fun _ => .pure _ _

theorem takes_unregister (space : DmaSpace) (registration : Registration) :
    (space.unregister (Simulator.platform files) registration).Takes 0 := by
  have releases := takes_releaseInterruptPage files space
  unfold unregister
  apply Logged.Takes.skip (Simulator.takes_unmapDma files _ _ _)
  intro removed
  split
  · exact releases
  · exact Logged.Takes.skip (.note _ _ _) fun _ => releases

end DmaSpace

namespace Session

/-! ### The start and the end of a session -/

theorem takes_release (session : Session HostAddress) :
    (session.release (Simulator.platform files)).Takes 0 := by
  have closes : (session.closeAccelerator (Simulator.platform files)).Takes 0 := by
    unfold closeAccelerator
    split
    · exact Simulator.takes_close files _
    · exact .pure _ _
  unfold release
  split
  · exact .pure _ _
  apply (DmaSpace.takes_releaseInterruptPage files _).skip
  intro space
  apply closes.skip
  intro accelerator
  apply Logged.Takes.skip (Simulator.takes_close files _)
  intro container
  exact (Pool.takes_release files _ _).skip fun group => .pure _ _

theorem takes_drop (session : Session HostAddress) :
    (session.drop (Simulator.platform files)).Takes 0 := by
  unfold drop
  apply (takes_release files session).skip
  intro outcome
  have drops := Simulator.takes_dropPortal files outcome.2.portal
  dsimp only
  split
  · exact drops
  · exact Logged.Takes.skip (.note _ _ _) fun _ => drops

theorem takes_teardown (session : Session HostAddress) :
    (session.teardown (Simulator.platform files)).Takes 0 := by
  have ends : (session.release (Simulator.platform files) >>= fun outcome =>
      outcome.2.drop (Simulator.platform files) >>= fun _ => pure outcome.1 :
        Logged Simulator (Result Unit)).Takes 0 :=
    (takes_release files session).skip fun outcome =>
      (takes_drop files outcome.2).skip fun _ => .pure _ _
  exact ends

theorem takes_returnGroup (pool : Pool) (handle : GroupHandle) :
    (returnGroup (Simulator.platform files) pool handle).Takes 0 := by
  unfold returnGroup
  apply (Pool.takes_release files pool handle).skip
  intro outcome
  dsimp only
  split
  · exact .pure _ _
  · exact .note _ _ _

theorem takes_mapCompanion (group : GroupFd) (companion : DeviceRecord) :
    (mapCompanion (Simulator.platform files) group companion).Takes 1 := by
  unfold mapCompanion
  apply Act.Takes.skip (Simulator.takes_deviceFd files group _)
  intro descriptor
  refine Act.Takes.last ?_ fun mapped => ?_
  · exact Act.Takes.ofLogged (Simulator.takes_mapPortal files descriptor)
  · apply Act.Takes.skip (.ofLogged (Simulator.takes_closeQuietly files descriptor))
    intro _
    exact (Act.Takes.ofResult mapped 0).onFailure fun _ => .note _ _ _

theorem takes_closeBound (devices : DeviceSet) :
    (closeBound (Simulator.platform files) devices).Takes 0 := by
  unfold closeBound
  split
  · exact Simulator.takes_closeQuietly files _
  · exact .pure _ _

theorem takes_probe (session : Session HostAddress) :
    (session.probe (Simulator.platform files)).Takes 0 := by
  have asks (call : Call) := Simulator.takes_request files session.portal call
  unfold probe
  refine Act.Takes.skip (asks _) fun token => .ofLogged ?_
  apply Logged.Takes.skip (asks _)
  intro attributes
  split
  · apply Logged.Takes.skip (asks _)
    intro closed
    split
    · exact .pure _ _
    · exact .note _ _ _
  · apply Logged.Takes.skip (.note _ _ _)
    intro _
    apply Logged.Takes.skip (asks _)
    intro closed
    split
    · exact .pure _ _
    · exact .note _ _ _

theorem takes_abandon (session : Session HostAddress) (failure : DriverError) :
    (session.abandon (Simulator.platform files) failure).Takes 0 := by
  unfold abandon
  apply Logged.Takes.skip (.note _ _ _)
  intro _
  apply (takes_release files session).skip
  intro outcome
  have drops := takes_drop files outcome.2
  dsimp only
  split
  · exact drops
  · exact Logged.Takes.skip (.note _ _ _) fun _ => drops

theorem takes_start (pool : Pool) (container : ContainerName) :
    (start (Simulator.platform files) pool container).Takes 1 := by
  have found : ((Simulator.platform files).containerGroup container).Takes 0 :=
    Simulator.takes_ask _
  unfold start
  apply found.skip
  intro group
  apply Act.Takes.skip (.ofLogged (Pool.takes_acquire files pool group))
  intro acquired
  apply Act.Takes.skip (.ofResult _ _)
  intro handle
  have returns := takes_returnGroup files acquired.2 handle
  refine Act.Takes.skip ?_ fun containerDevice => ?_
  · apply Act.Takes.onFailure (Simulator.takes_deviceFd files _ _)
    intro failure
    exact Logged.Takes.skip (.note _ _ _) fun _ => returns
  have gives := (Simulator.takes_closeQuietly files containerDevice).skip fun _ => returns
  refine Act.Takes.skip ?_ fun devices => ?_
  · exact (DeviceSet.takes_bind files _ _).onFailure fun failure => gives
  refine Act.Takes.last ?_ fun portal => ?_
  · apply (takes_mapCompanion files _ _).onFailure
    intro failure
    exact (takes_closeBound files devices).skip fun _ => gives
  · refine Act.Takes.skip ?_ fun _ => .pure _ _
    exact (takes_probe files _).onFailure fun failure => takes_abandon files _ failure

theorem start_reachable (pool : Pool) (container : ContainerName) {sim : Simulator}
    (reachable : sim.Reachable) :
    ((start (Simulator.platform files) pool container).outcome ⟨sim, []⟩).2.world.Reachable :=
  Logged.Takes.reachable (takes_start files pool container) reachable []

/-! ### Operations and loads -/

theorem takes_withChannel (session : Session HostAddress) (operation : String)
    {calls : Token → Act Simulator α} (quiet : ∀ token, (calls token).Takes 0) :
    (session.withChannel (Simulator.platform files) operation calls).Takes 0 := by
  have asks (call : Call) := Simulator.takes_request files session.portal call
  unfold withChannel
  apply Logged.Takes.skip (asks _)
  intro opened
  split
  · exact Logged.Takes.skip (.note _ _ _) fun _ => .pure _ _
  · apply Logged.Takes.skip (quiet _)
    intro result
    dsimp only
    split
    · apply Logged.Takes.skip (asks _)
      intro closed
      split
      · exact .pure _ _
      · exact Logged.Takes.skip (.note _ _ _) fun _ => .pure _ _
    · apply Logged.Takes.skip (.note _ _ _)
      intro _
      apply Logged.Takes.skip (asks _)
      intro closed
      split
      · exact .pure _ _
      · exact Logged.Takes.skip (.note _ _ _) fun _ => .pure _ _

theorem takes_status (session : Session HostAddress) :
    (session.status (Simulator.platform files)).Takes 0 := by
  have asks (call : Call) := Simulator.takes_request files session.portal call
  apply takes_withChannel files session _
  intro token
  apply Act.Takes.skip (asks _)
  intro attributes
  apply Act.Takes.skip (asks _)
  intro serviceLayer
  exact Act.Takes.skip (asks _) fun state => .pure _ _

theorem takes_stage (path : String) {size : Nat} (short : size ≤ Staging.imageLimit) :
    (stage (Simulator.platform files) path (Staging.stagedLength size)).Takes 1 := by
  unfold stage
  apply Act.Takes.skip (Simulator.takes_openFile files path)
  intro descriptor
  refine Act.Takes.last ?_ fun address => .pure _ _
  apply (Simulator.takes_mapFile files descriptor short).onFailure
  intro failure
  exact Simulator.takes_closeQuietly files descriptor

theorem takes_unstage (file : StagedFile) :
    (unstage (Simulator.platform files) file).Takes 0 := by
  have closes := Simulator.takes_closeQuietly files file.descriptor
  unfold unstage
  apply Logged.Takes.skip (Simulator.takes_unmap files _ _)
  intro unmapped
  split
  · exact closes
  · exact Logged.Takes.skip (.note _ _ _) fun _ => closes

theorem takes_withStaged (session : Session HostAddress) (path : String) {size count : Nat}
    (short : size ≤ Staging.imageLimit)
    {work : StagedFile → Session HostAddress →
      Logged Simulator (Result α × Session HostAddress)}
    (works : ∀ file session, (work file session).Takes count) :
    (session.withStaged (Simulator.platform files) path (Staging.stagedLength size) work).Takes
      (count + 1) := by
  unfold withStaged
  apply Logged.Takes.bind (takes_stage files path short)
  intro staged
  split
  · exact .pure _ _
  · apply Logged.Takes.last (works _ _)
    intro worked
    exact (takes_unstage files _).skip fun _ => .pure _ _

theorem takes_withRegistered (session : Session HostAddress) (file : StagedFile) {count : Nat}
    {work : Registration → Session HostAddress →
      Logged Simulator (Result α × Session HostAddress)}
    (works : ∀ registration session, (work registration session).Takes count) :
    (session.withRegistered (Simulator.platform files) file work).Takes (count + 1) := by
  unfold withRegistered
  apply (DmaSpace.takes_register files _ _ _).bind
  intro registered
  dsimp only
  split
  · exact .pure _ _
  · apply Logged.Takes.last (works _ _)
    intro worked
    exact (DmaSpace.takes_unregister files _ _).skip fun _ => .pure _ _

theorem takes_loadAndRun (session : Session HostAddress) (reset : Bool) (load : LoadConfig)
    (run : RunConfig) :
    (session.loadAndRun (Simulator.platform files) reset load run).Takes 0 := by
  have asks (call : Call) := Simulator.takes_request files session.portal call
  apply takes_withChannel files session _
  intro token
  have runs := Act.Takes.skip (asks (.load token load)) fun _ => asks (.run token run)
  split
  · refine Act.Takes.skip (.ofLogged ?_) fun _ => runs
    unfold resetFirst
    apply Logged.Takes.skip (asks _)
    intro done
    split
    · exact .pure _ _
    · exact .note _ _ _
  · exact runs

theorem takes_carryOut (session : Session HostAddress) (request : LoadRequest) {plan : LoadPlan}
    (accepted : request.plan files = .ok plan) :
    (session.carryOut (Simulator.platform files) request plan).Takes 4 := by
  have sound := LoadRequest.sound_of_plan accepted
  have starts (session : Session HostAddress) (image : Registration)
      (arguments : Option (Registration × UInt32)) :
      (session.startImage (Simulator.platform files) request.reset plan.imageLength image
        arguments).Takes 0 := takes_loadAndRun files session _ _ _
  unfold carryOut
  apply takes_withStaged files session _ sound.imageShort
  intro image session
  split
  · next path length named told =>
      have limited := (sound.arguments path length named told).2
      have short : length.toNat ≤ Staging.imageLimit :=
        Nat.le_trans limited (by decide)
      apply takes_withStaged files session path short
      intro arguments session
      apply takes_withRegistered files session image
      intro imageDma session
      exact takes_withRegistered files session arguments fun argumentsDma session =>
        starts session imageDma _
  · exact takes_withRegistered files session image fun imageDma session =>
      (starts session imageDma _).mono (Nat.zero_le 2)

theorem takes_load (session : Session HostAddress) (request : LoadRequest) :
    (session.load (Simulator.platform files) files request).Takes 4 := by
  unfold load
  split
  · exact Logged.Takes.skip (.note _ _ _) fun _ => .pure _ _
  · next plan accepted =>
      apply Logged.Takes.last (takes_carryOut files session request accepted)
      intro outcome
      dsimp only
      split
      · exact .pure _ _
      · exact Logged.Takes.skip (.note _ _ _) fun _ => .pure _ _

end Session

end Passthrough
