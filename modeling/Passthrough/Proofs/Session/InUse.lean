import Passthrough.Proofs.Action.Yields
import Passthrough.Session.Start
import Passthrough.Tool.Run

set_option autoImplicit false

/-! The sessions that there are between operations: each was started on some platform, and then
tasks were done on it, whatever came of them. No interrupt page is mapped in between, so that
releasing a session closes what it has open and gives up its group. -/

namespace Passthrough

variable {World Portal : Type}

namespace Tool.Task

@[reducible] def Value : Task → Type
  | .load _ => Unit
  | .reset => Unit
  | .status => TileStatus
  | .timeOfDay => UInt64
  | .setTimeOfDay _ => Unit

def operate (platform : Platform World Portal) (files : Files.FileTree)
    (session : Session Portal) :
    (task : Task) → Logged World (Result task.Value × Session Portal)
  | .load request => session.load platform files request
  | .reset => session.reset platform
  | .status => session.status platform
  | .timeOfDay => session.timeOfDay platform
  | .setTimeOfDay time => session.setTimeOfDay platform time

end Tool.Task

inductive Session.InUse : Session Portal → Prop where
  | started {World : Type} (platform : Platform World Portal) (pool : Pool)
      (container : ContainerName) (start : Traced World) {session : Session Portal}
      (begun : ((Session.start platform pool container).outcome start).1 = .ok session) :
      InUse session
  | operated {World : Type} (platform : Platform World Portal) (files : Files.FileTree)
      (task : Tool.Task) (start : Traced World) {session : Session Portal}
      (used : InUse session) : InUse (task.operate platform files session start).1.2

def Session.releaseOpen (session : Session Portal) (platform : Platform World Portal)
    (accelerator : DeviceFd) : Logged World (Result Unit × Session Portal) := do
  let own ← (platform.close accelerator).outcome
  let container ← (platform.close session.containerDevice).outcome
  let (group, pool) ← session.pool.release platform session.group
  return (Result.first [own, container, group],
    { session.withoutAccelerator with pool := pool, released := true })

theorem Session.release_eq_releaseOpen (session : Session Portal)
    (platform : Platform World Portal) {accelerator : DeviceFd}
    (unreleased : session.released = false) (pageless : session.dma.interruptPage = none)
    (opened : session.devices.accelerator.descriptor = some accelerator) :
    session.release platform = session.releaseOpen platform accelerator := by
  have kept : session.dma.releaseInterruptPage platform = pure session.dma := by
    unfold DmaSpace.releaseInterruptPage
    rw [pageless]
  unfold Session.release Session.closeAccelerator
  rw [unreleased, if_neg Bool.false_ne_true, kept, pure_bind, opened]
  rfl

theorem DeviceSet.yields_reportIgnored {World : Type} (role : DeviceRole) (chosen : String)
    (names : List String) (world : World) :
    (DeviceSet.reportIgnored role chosen names).Yields world fun _ after => after = world := by
  induction names with
  | nil => exact Logged.Yields.pure rfl
  | cons name rest ih => exact Logged.Yields.afterNote ih

theorem DeviceSet.yields_first {World : Type} (role : DeviceRole) (group : GroupId)
    (names : List String) (world : World) :
    (DeviceSet.first role group names : Act World DeviceRecord).Yields world
      fun result after => after = world ∧
        result.Either (fun record => record.descriptor = none ∧ record.token = none) True := by
  have noted (text : String) : (Act.ofLogged (Logged.error text)).Yields world
      fun _ after => after = world := fun _ => rfl
  unfold DeviceSet.first
  split
  · refine Act.Yields.andThen (noted _) (fun _ _ same => ⟨same, trivial⟩) ?_
    exact fun _ after same => Act.Yields.throw ⟨same, trivial⟩
  · next name extras _ =>
      have reported : (Act.ofLogged (DeviceSet.reportIgnored role name extras)).Yields world
          fun _ after => after = world :=
        Act.Yields.ofLogged (yields_reportIgnored role name extras world)
      refine Act.Yields.andThen reported (fun _ _ same => ⟨same, trivial⟩) ?_
      intro _ after same
      split
      · exact Act.Yields.pure ⟨same, rfl, rfl⟩
      · exact Act.Yields.throw ⟨same, trivial⟩

theorem Act.Yields.anyThen {α β : Type} {action : Act World α} {next : α → Act World β}
    {world : World} {done : β → Prop}
    (rest : ∀ value reached, (next value).Yields reached fun result _ => result.Either done True) :
    (action >>= next).Yields world fun result _ => result.Either done True := by
  have unknown : action.Yields world fun _ _ => True := fun _ => trivial
  exact unknown.andThen (fun _ _ _ => trivial) fun value reached _ => rest value reached

theorem DeviceSet.bind_tokenless (platform : Platform World Portal) (descriptor : GroupFd)
    (group : GroupId) (world : World) :
    (DeviceSet.bind platform descriptor group).Yields world fun result _ =>
      result.Either (fun devices => devices.accelerator.token = none) True := by
  unfold DeviceSet.bind
  refine Act.Yields.anyThen fun names listed => ?_
  refine Act.Yields.anyThen fun companion found => ?_
  refine (DeviceSet.yields_first .accelerator group names found).andThen
    (fun _ _ _ => trivial) ?_
  rintro accelerator chosen ⟨-, -, tokenless⟩
  refine Act.Yields.anyThen fun device opened => ?_
  exact Act.Yields.anyThen fun metadata asked => Act.Yields.pure tokenless

theorem Session.start_tokenless (platform : Platform World Portal) (pool : Pool)
    (container : ContainerName) (world : World) :
    (Session.start platform pool container).Yields world fun result _ =>
      result.Either (fun session => session.devices.accelerator.token = none) True := by
  unfold Session.start
  refine Act.Yields.anyThen fun group _ => ?_
  refine Act.Yields.anyThen fun (acquired, taken) _ => ?_
  refine Act.Yields.anyThen fun handle _ => ?_
  refine Act.Yields.anyThen fun containerDevice opened => ?_
  refine Act.Yields.cleanOrThen
    (DeviceSet.bind_tokenless platform handle.descriptor group opened) ?_ ?_
  · exact fun _ _ _ _ => trivial
  intro devices bound tokenless
  refine Act.Yields.anyThen fun portal _ => ?_
  exact Act.Yields.anyThen fun _ _ => Act.Yields.pure tokenless

end Passthrough
