import Passthrough.Proofs.Stock.PoolCourse

set_option autoImplicit false

/-! Operations that write nothing to the log. Releasing a session reports nothing by itself, as
long as the pool holds its group; only a drop reports, and only what could not be released. -/

namespace Passthrough

variable {World α β : Type}

namespace Logged

def Quiet (action : Logged World α) : Prop :=
  ∀ start, (action start).2.log = start.log

namespace Quiet

theorem pure (value : α) : Quiet (Pure.pure value : Logged World α) :=
  fun _ => rfl

theorem bind {action : Logged World α} {next : α → Logged World β} (first : action.Quiet)
    (rest : ∀ value, (next value).Quiet) : Quiet (action >>= next) :=
  fun start => (rest _ _).trans (first start)

end Quiet

end Logged

structure Platform.Quiet {Portal : Type} (platform : Platform World Portal) : Prop where
  close {kind : DescriptorKind} (descriptor : Descriptor kind) :
    (platform.close descriptor).outcome.Quiet
  unsetContainer (group : GroupFd) : (platform.unsetContainer group).outcome.Quiet
  dropPortal (portal : Portal) : (platform.dropPortal portal).Quiet

namespace Platform.Quiet

variable {platform : Platform World HostAddress}

theorem leave (quiet : platform.Quiet) (pool : Pool) (container slot : Nat) :
    (pool.leave platform container slot).Quiet := by
  unfold Pool.leave
  split
  · exact .pure _
  · dsimp only
    split
    · exact .bind (quiet.close _) fun _ => .pure _
    · exact .pure _

theorem releaseGroup (quiet : platform.Quiet) {pool : Pool} {handle : GroupHandle}
    {owned : GroupSlot} (held : pool.held? handle = some owned) :
    (pool.release platform handle).Quiet := by
  unfold Pool.release
  rw [held]
  refine .bind (quiet.unsetContainer _) fun _ => ?_
  refine .bind (quiet.leave _ _ _) fun _ => ?_
  exact .bind (quiet.close _) fun _ => .pure _

variable {session : Session HostAddress} {accelerator : DeviceFd} {owned : GroupSlot}
  {host : ContainerSlot}

theorem releaseSession (quiet : platform.Quiet) (fitted : session.Fitted accelerator)
    (houses : session.pool.Houses session.group owned host) :
    (session.release platform).Quiet := by
  rw [fitted.release_eq, Session.releaseOpen]
  refine .bind (quiet.close _) fun _ => ?_
  refine .bind (quiet.close _) fun _ => ?_
  exact .bind (quiet.releaseGroup houses.held) fun _ => .pure _

theorem drop (quiet : platform.Quiet) (fitted : session.Fitted accelerator)
    (houses : session.pool.Houses session.group owned host) {start : Traced World}
    (released : (session.release platform start).1.1 = .ok ()) :
    (session.drop platform start).2.log = start.log := by
  have silent := quiet.releaseSession fitted houses start
  unfold Session.drop
  rw [Logged.run_bind]
  generalize session.release platform start = ended at released silent ⊢
  obtain ⟨⟨outcome, gone⟩, reached⟩ := ended
  cases released
  exact (quiet.dropPortal gone.portal reached).trans silent

end Platform.Quiet

end Passthrough
