import Passthrough.Proofs.Device.Binding
import Passthrough.Proofs.Stock.SessionCourse

set_option autoImplicit false

/-! Writing the calls down changes nothing about a start: with a journal it comes to the same session
or failure, the same world and the same log as without. The proofs follow a start from its
last steps to the first ones. -/

namespace Passthrough

variable {World Portal α : Type} (platform : Platform World Portal)

theorem Platform.closeQuietly_mirrors {kind : DescriptorKind} (descriptor : Descriptor kind) :
    (platform.journaled.closeQuietly descriptor).Mirrors Journal.world
      (platform.closeQuietly descriptor) :=
  platform.journaled_reflects.closeQuietly descriptor

namespace Pool

theorem join_mirrors (descriptor : GroupFd) (containers : List (Nat × ContainerSlot)) :
    (join platform.journaled descriptor containers).Mirrors Journal.world
      (join platform descriptor containers) := by
  induction containers with
  | nil => exact Logged.Mirrors.pure _
  | cons entry rest ih =>
      unfold join
      refine Logged.Mirrors.bind (fun _ => rfl) fun result => ?_
      cases result with
      | ok _ => exact Logged.Mirrors.pure _
      | error failure => exact ih

theorem attachFresh_mirrors (descriptor : GroupFd) (container : ContainerFd) :
    (attachFresh platform.journaled descriptor container).Mirrors Journal.world
      (attachFresh platform descriptor container) := by
  unfold attachFresh
  refine Act.Mirrors.bind (fun _ => rfl) fun version => ?_
  split
  · exact fun _ => rfl
  refine Act.Mirrors.bind (fun _ => rfl) fun present => ?_
  split
  · exact fun _ => rfl
  · exact fun _ => rfl

theorem retract_mirrors (group : GroupId) (descriptor : GroupFd) :
    (retract platform.journaled group descriptor).Mirrors Journal.world
      (retract platform group descriptor) := by
  unfold retract
  refine Logged.Mirrors.bind (fun _ => rfl) fun result => ?_
  cases result with
  | ok _ => exact Logged.Mirrors.pure _
  | error failure => exact Logged.Mirrors.note _ _

theorem openContainer_mirrors (group : GroupId) (descriptor : GroupFd) :
    (openContainer platform.journaled group descriptor).Mirrors Journal.world
      (openContainer platform group descriptor) := by
  unfold openContainer
  refine Act.Mirrors.bind (fun _ => rfl) fun container => ?_
  have closes := platform.closeQuietly_mirrors container
  refine Act.Mirrors.bind ?_ fun _ => Act.Mirrors.bind ?_ fun _ => Act.Mirrors.pure _
  · exact (attachFresh_mirrors platform descriptor container).onFailure fun _ => closes
  · refine Act.Mirrors.onFailure (fun _ => rfl) fun _ => ?_
    exact (retract_mirrors platform group descriptor).bind fun _ => closes

theorem requireViable_mirrors (group : GroupId) (descriptor : GroupFd) :
    (requireViable platform.journaled group descriptor).Mirrors Journal.world
      (requireViable platform group descriptor) := by
  unfold requireViable
  refine Act.Mirrors.bind (fun _ => rfl) fun viable => ?_
  split
  · exact fun _ => rfl
  · exact Act.Mirrors.pure _

theorem attach_mirrors (pool : Pool) (group : GroupId) (descriptor : GroupFd) (index : Nat) :
    (pool.attach platform.journaled group descriptor index).Mirrors Journal.world
      (pool.attach platform group descriptor index) := by
  unfold attach
  refine Logged.Mirrors.bind (requireViable_mirrors platform group descriptor) fun viable => ?_
  split
  · exact Logged.Mirrors.pure _
  refine Logged.Mirrors.bind (join_mirrors platform descriptor pool.roomy) fun joined => ?_
  split
  · exact Logged.Mirrors.pure _
  split
  · exact Logged.Mirrors.pure _
  split
  · exact Logged.Mirrors.pure _
  refine Logged.Mirrors.bind (openContainer_mirrors platform group descriptor) fun opened => ?_
  split
  · exact Logged.Mirrors.pure _
  · exact Logged.Mirrors.pure _

theorem acquire_mirrors (pool : Pool) (group : GroupId) :
    (pool.acquire platform.journaled group).Mirrors Journal.world
      (pool.acquire platform group) := by
  unfold acquire
  split
  · exact Logged.Mirrors.pure _
  split
  · exact Logged.Mirrors.pure _
  refine Logged.Mirrors.bind (fun _ => rfl) fun opened => ?_
  split
  · exact Logged.Mirrors.pure _
  · next descriptor =>
      refine Logged.Mirrors.bind (attach_mirrors platform pool group descriptor _)
        fun attached => ?_
      split
      · refine Logged.Mirrors.afterNote ?_
        exact (platform.closeQuietly_mirrors descriptor).bind fun _ => Logged.Mirrors.pure _
      · exact Logged.Mirrors.pure _

theorem leave_mirrors (pool : Pool) (container group : Nat) :
    (pool.leave platform.journaled container group).Mirrors Journal.world
      (pool.leave platform container group) := by
  unfold leave
  split
  · exact Logged.Mirrors.pure _
  · dsimp only
    split
    · exact Logged.Mirrors.bind (fun _ => rfl) fun _ => Logged.Mirrors.pure _
    · exact Logged.Mirrors.pure _

theorem release_mirrors (pool : Pool) (handle : GroupHandle) :
    (pool.release platform.journaled handle).Mirrors Journal.world
      (pool.release platform handle) := by
  unfold release
  split
  · exact Logged.Mirrors.afterNote (Logged.Mirrors.pure _)
  · refine Logged.Mirrors.bind (fun _ => rfl) fun detached => ?_
    refine Logged.Mirrors.bind (leave_mirrors platform _ _ _) fun left => ?_
    exact Logged.Mirrors.bind (fun _ => rfl) fun closed => Logged.Mirrors.pure _

end Pool

namespace Session

theorem returnGroup_mirrors (pool : Pool) (handle : GroupHandle) :
    (returnGroup platform.journaled pool handle).Mirrors Journal.world
      (returnGroup platform pool handle) := by
  unfold returnGroup
  refine Logged.Mirrors.bind (Pool.release_mirrors platform pool handle) fun ended => ?_
  obtain ⟨outcome, left⟩ := ended
  cases outcome with
  | ok _ => exact Logged.Mirrors.pure _
  | error failure => exact Logged.Mirrors.note _ _

theorem mapCompanion_mirrors (group : GroupFd) (companion : DeviceRecord) :
    (mapCompanion platform.journaled group companion).Mirrors Journal.world
      (mapCompanion platform group companion) := by
  unfold mapCompanion
  refine Act.Mirrors.bind (fun _ => rfl) fun descriptor => ?_
  refine Act.Mirrors.bind (fun _ => rfl) fun mapped => ?_
  refine (Act.Mirrors.ofLogged (platform.closeQuietly_mirrors descriptor)).bind fun _ => ?_
  exact Act.Mirrors.onFailure (fun _ => rfl) fun failure => Logged.Mirrors.note _ _

theorem closeBound_mirrors (devices : DeviceSet) :
    (closeBound platform.journaled devices).Mirrors Journal.world
      (closeBound platform devices) := by
  unfold closeBound
  split
  · exact platform.closeQuietly_mirrors _
  · exact Logged.Mirrors.pure _

theorem probe_mirrors (session : Session Portal) :
    (session.probe platform.journaled).Mirrors Journal.world (session.probe platform) := by
  unfold probe
  refine Act.Mirrors.bind (fun _ => rfl) fun token => Act.Mirrors.ofLogged ?_
  refine Logged.Mirrors.bind (fun _ => rfl) fun attributes => ?_
  split
  · refine Logged.Mirrors.bind (fun _ => rfl) fun closed => ?_
    split
    · exact Logged.Mirrors.pure _
    · exact Logged.Mirrors.note _ _
  · refine Logged.Mirrors.afterNote (Logged.Mirrors.bind (fun _ => rfl) fun closed => ?_)
    split
    · exact Logged.Mirrors.pure _
    · exact Logged.Mirrors.note _ _

theorem release_mirrors (session : Session Portal) :
    (session.release platform.journaled).Mirrors Journal.world (session.release platform) := by
  unfold release
  split
  · exact Logged.Mirrors.pure _
  · refine Logged.Mirrors.bind
      (platform.journaled_reflects.releaseInterruptPage session.dma) fun dma => ?_
    have closes : (session.closeAccelerator platform.journaled).Mirrors Journal.world
        (session.closeAccelerator platform) := by
      unfold closeAccelerator
      split
      · exact fun _ => rfl
      · exact Logged.Mirrors.pure _
    refine closes.bind fun accelerator => ?_
    refine Logged.Mirrors.bind (fun _ => rfl) fun container => ?_
    exact (Pool.release_mirrors platform session.pool session.group).bind
      fun ended => Logged.Mirrors.pure _

theorem drop_mirrors (session : Session Portal) :
    (session.drop platform.journaled).Mirrors Journal.world (session.drop platform) := by
  unfold drop
  refine (release_mirrors platform session).bind fun ended => ?_
  obtain ⟨outcome, gone⟩ := ended
  cases outcome with
  | ok _ => exact fun _ => rfl
  | error failure => exact Logged.Mirrors.afterNote fun _ => rfl

theorem abandon_mirrors (session : Session Portal) (failure : DriverError) :
    (session.abandon platform.journaled failure).Mirrors Journal.world
      (session.abandon platform failure) := by
  unfold abandon
  refine Logged.Mirrors.afterNote ?_
  refine (release_mirrors platform session).bind fun ended => ?_
  obtain ⟨outcome, gone⟩ := ended
  cases outcome with
  | ok _ => exact drop_mirrors platform gone
  | error failure => exact Logged.Mirrors.afterNote (drop_mirrors platform gone)

theorem bring_mirrors (pool : Pool) (handle : GroupHandle) (group : GroupId)
    (container : ContainerName) :
    (bring platform.journaled pool handle group container).Mirrors Journal.world
      (bring platform pool handle group container) := by
  have returns := returnGroup_mirrors platform pool handle
  unfold bring
  refine Act.Mirrors.bind ?_ fun containerDevice => ?_
  · exact Act.Mirrors.onFailure (fun _ => rfl) fun failure => returns.afterNote
  have gives := (platform.closeQuietly_mirrors containerDevice).bind fun _ => returns
  refine Act.Mirrors.bind ?_ fun devices => ?_
  · exact (DeviceSet.bind_mirrors platform _ _).onFailure fun _ => gives
  refine Act.Mirrors.bind ?_ fun portal => ?_
  · exact (mapCompanion_mirrors platform _ _).onFailure
      fun _ => (closeBound_mirrors platform devices).bind fun _ => gives
  refine Act.Mirrors.bind ?_ fun _ => Act.Mirrors.pure _
  exact (probe_mirrors platform _).onFailure fun failure => abandon_mirrors platform _ failure

theorem start_mirrors (pool : Pool) (container : ContainerName) :
    (start platform.journaled pool container).Mirrors Journal.world
      (start platform pool container) := by
  rw [start_eq, start_eq]
  refine Act.Mirrors.bind (fun _ => rfl) fun group => ?_
  refine (Act.Mirrors.ofLogged (Pool.acquire_mirrors platform pool group)).bind
    fun acquired => ?_
  obtain ⟨result, left⟩ := acquired
  refine Act.Mirrors.bind (fun _ => rfl) fun handle => ?_
  exact bring_mirrors platform left handle group container

end Session

end Passthrough
