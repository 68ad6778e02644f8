import Passthrough.Proofs.Platform.Silent
import Passthrough.Session.Start

set_option autoImplicit false

/-! What a journal shows to have been asked of a platform, apart from taking things away. Giving up
what was opened in vain leaves it as it was, and reports nothing worse than a warning. So
after a start that failed it still shows where. -/

namespace Passthrough

variable {World Portal α : Type}

namespace Journal

/-- The calls that were made, the last first, without those that take something away. -/
def asked (journal : Journal World) : List Entry :=
  (journal.calls.filter fun entry => !entry.operation.releases).reverse

variable {operation : Operation} {subject : Option Int} {action : Act World α}

theorem asked_of_plain (plain : operation.releases = false) (journal : Journal World)
    (world : World) (failure : Option DriverError) :
    (journal.entered world ⟨operation, subject, failure⟩).asked =
      ⟨operation, subject, failure⟩ :: journal.asked := by
  unfold asked entered
  rw [List.filter_append, List.reverse_append]
  simp [plain]

theorem asked_of_releases (releases : operation.releases = true) (journal : Journal World)
    (world : World) (failure : Option DriverError) :
    (journal.entered world ⟨operation, subject, failure⟩).asked = journal.asked := by
  unfold asked entered
  rw [List.filter_append, List.reverse_append]
  simp [releases]

theorem quiet_act (quiet : action.outcome.Quiet) :
    (act operation subject action).outcome.Quiet :=
  fun _ => quiet _

theorem quiet_aside {action : Logged World α} (quiet : action.Quiet) : (aside action).Quiet :=
  fun _ => quiet _

theorem notes_asked (quiet : action.outcome.Quiet) (plain : operation.releases = false)
    (journal : Journal World) :
    (act operation subject action).Notes journal fun result after alarm =>
      alarm = false ∧ after.asked = ⟨operation, subject, result.failure?⟩ :: journal.asked :=
  ((quiet_act quiet).writes _).notes (yields_act fun _ => asked_of_plain plain journal _ _)

theorem upholds_release {fine : List Entry → Prop} (quiet : action.outcome.Quiet)
    (releases : operation.releases = true) :
    (act operation subject action).Upholds fun journal => fine journal.asked := by
  intro journal well
  refine ((quiet_act quiet).writes _).notes (yields_act fun log => ?_)
  change fine (journal.entered _ _).asked
  rw [asked_of_releases releases]
  exact well

theorem upholds_aside {fine : List Entry → Prop} {action : Logged World α} (quiet : action.Quiet) :
    (aside action).Upholds fun journal => fine journal.asked :=
  fun _ well => ((quiet_aside quiet).writes _).notes (yields_aside fun _ => well)

end Journal

namespace Platform.Silent

variable {platform : Platform World Portal}

variable (fine : List Entry → Prop)

theorem upholds_closeQuietly (silent : platform.Silent) {kind : DescriptorKind}
    (descriptor : Descriptor kind) :
    (platform.journaled.closeQuietly descriptor).Upholds fun journal => fine journal.asked := by
  unfold Platform.closeQuietly
  refine Logged.Upholds.bind (Journal.upholds_release (silent.close descriptor) rfl)
    fun result => ?_
  cases result with
  | ok _ => exact .pure _
  | error failure => exact .warning _

theorem upholds_retract (silent : platform.Silent) (group : GroupId) (descriptor : GroupFd) :
    (Pool.retract platform.journaled group descriptor).Upholds
      fun journal => fine journal.asked := by
  unfold Pool.retract
  refine Logged.Upholds.bind (Journal.upholds_release (silent.unsetContainer descriptor) rfl)
    fun result => ?_
  cases result with
  | ok _ => exact .pure _
  | error failure => exact .warning _

theorem upholds_leave (silent : platform.Silent) (pool : Pool) (container group : Nat) :
    (pool.leave platform.journaled container group).Upholds fun journal => fine journal.asked := by
  unfold Pool.leave
  split
  · exact .pure _
  · dsimp only
    split
    · exact Logged.Upholds.bind (Journal.upholds_release (silent.close _) rfl) fun _ => .pure _
    · exact .pure _

theorem upholds_releaseGroup (silent : platform.Silent) (pool : Pool) (handle : GroupHandle) :
    (pool.release platform.journaled handle).Upholds fun journal => fine journal.asked := by
  unfold Pool.release
  split
  · exact Logged.Upholds.bind (.warning _) fun _ => .pure _
  · refine Logged.Upholds.bind (Journal.upholds_release (silent.unsetContainer _) rfl)
      fun detached => ?_
    refine Logged.Upholds.bind (silent.upholds_leave fine _ _ _) fun left => ?_
    exact Logged.Upholds.bind (Journal.upholds_release (silent.close _) rfl) fun closed => .pure _

theorem upholds_returnGroup (silent : platform.Silent) (pool : Pool) (handle : GroupHandle) :
    (Session.returnGroup platform.journaled pool handle).Upholds
      fun journal => fine journal.asked := by
  unfold Session.returnGroup
  refine Logged.Upholds.bind (silent.upholds_releaseGroup fine pool handle) fun ended => ?_
  obtain ⟨outcome, left⟩ := ended
  cases outcome with
  | ok _ => exact .pure _
  | error failure => exact .warning _

theorem upholds_closeBound (silent : platform.Silent) (devices : DeviceSet) :
    (Session.closeBound platform.journaled devices).Upholds fun journal => fine journal.asked := by
  unfold Session.closeBound
  split
  · exact silent.upholds_closeQuietly fine _
  · exact .pure _

theorem release_notes (silent : platform.Silent) {session : Session Portal}
    (pageless : session.dma.interruptPage = none) {journal : Journal World}
    (well : fine journal.asked) :
    (session.release platform.journaled).Notes journal fun ended after alarm =>
      alarm = false ∧ fine after.asked ∧ ended.2.released = true := by
  unfold Session.release
  split
  · next before => exact Logged.Notes.pure ⟨rfl, well, before⟩
  · have kept : session.dma.releaseInterruptPage platform.journaled = pure session.dma := by
      unfold DmaSpace.releaseInterruptPage
      rw [pageless]
    rw [kept, pure_bind]
    have closes : (session.closeAccelerator platform.journaled).Upholds
        fun journal => fine journal.asked := by
      unfold Session.closeAccelerator
      split
      · exact Journal.upholds_release (silent.close _) rfl
      · exact .pure _
    refine Logged.Notes.harmlessThen (closes journal well) fun accelerator closed well => ?_
    have container : (platform.journaled.close session.containerDevice).Upholds
        fun journal => fine journal.asked :=
      Journal.upholds_release (silent.close session.containerDevice) rfl
    refine Logged.Notes.harmlessThen (container closed well) fun own opened well => ?_
    have group := silent.upholds_releaseGroup fine session.pool session.group
    refine Logged.Notes.harmlessThen (group opened well) fun ended left well => ?_
    exact Logged.Notes.pure ⟨rfl, well, rfl⟩

theorem upholds_drop (silent : platform.Silent) {session : Session Portal}
    (released : session.released = true) :
    (session.drop platform.journaled).Upholds fun journal => fine journal.asked := by
  unfold Session.drop Session.release
  rw [if_pos released, pure_bind]
  exact Journal.upholds_aside (silent.dropPortal session.portal)

end Platform.Silent

end Passthrough
