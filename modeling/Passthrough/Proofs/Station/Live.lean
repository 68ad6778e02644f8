import Passthrough.Proofs.Session.ChannelFrame
import Passthrough.Proofs.Session.InUse
import Passthrough.Proofs.Station.Owns

set_option autoImplicit false

/-! A live session and what it holds: the group, the container it is attached to, the
container object, the accelerator, and the window of its portal. The session's pool knows
the one group and the one container. Ending the session gives back exactly these. -/

namespace Passthrough

open Simulator (OpenObject)

/-- A session with the name of the container object that it was started for. -/
structure Live where
  container : ContainerName
  session : Session HostAddress

def Pool.single (limits : PoolLimits) (handle : GroupHandle) : Pool :=
  { limits := limits
    groups := [some { descriptor := handle.descriptor, group := handle.group, container := 0 }]
    containers := [some { descriptor := handle.container, members := [0] }] }

namespace Live

def descriptors (live : Live) : List (Int × OpenObject) :=
  (live.session.devices.accelerator.descriptor.toList.map fun descriptor =>
      (descriptor.number, .device live.session.devices.accelerator.name)) ++
    [ (live.session.containerDevice.number, .device live.container.text)
    , (live.session.group.container.number, .container true)
    , (live.session.group.descriptor.number, .group live.session.group.group) ]

theorem group_mem_descriptors (live : Live) :
    (live.session.group.descriptor.number, .group live.session.group.group) ∈
      live.descriptors :=
  List.mem_append_right _ (List.mem_cons_of_mem _ (List.mem_cons_of_mem _ List.mem_cons_self))

def attachment (live : Live) : Int × Int :=
  (live.session.group.descriptor.number, live.session.group.container.number)

def window (live : Live) : Nat × Nat :=
  (live.session.portal.value, Simulator.portalLength)

/-- The parts of a live session fit together. -/
structure Sound (live : Live) : Prop where
  released : live.session.released = false
  slot : live.session.group.slot = 0
  pool : ∃ limits, live.session.pool = Pool.single limits live.session.group
  dma : live.session.dma =
    DmaSpace.make live.session.group.container live.session.containerDevice
  opened : ∃ descriptor, live.session.devices.accelerator.descriptor = some descriptor
  token : live.session.devices.accelerator.token = none

theorem Sound.atRest {live : Live} (sound : live.Sound) :
    live.session.AtRest where
  page := congrArg DmaSpace.interruptPage sound.dma
  token := sound.token

end Live

def Inventory.of (lives : List Live) : Inventory :=
  { descriptors := lives.flatMap Live.descriptors
    attachments := lives.map Live.attachment
    mappings := lives.map Live.window }

namespace Owns

variable {attributes : TileAttributes} {inventory : Inventory} {sim : Simulator}

theorem yields_close (owns : Owns attributes inventory sim) (files : Files.FileTree)
    {kind : DescriptorKind} {descriptor : Descriptor kind} {object : OpenObject}
    {rest : List (Int × OpenObject)}
    (top : inventory.descriptors = (descriptor.number, object) :: rest)
    (detached : ∀ group, object = .group group →
      ∀ entry ∈ inventory.attachments, entry.1 ≠ descriptor.number) :
    ((Simulator.platform files).close descriptor).Yields sim fun result after =>
      result = .ok () ∧ Owns attributes { inventory with descriptors := rest } after :=
  fun _ => ⟨congrArg Prod.fst (owns.close top detached).1, (owns.close top detached).2⟩

theorem yields_unsetContainer (owns : Owns attributes inventory sim) (files : Files.FileTree)
    {group : GroupFd} {container : Int} {rest : List (Int × Int)}
    (top : inventory.attachments = (group.number, container) :: rest) :
    ((Simulator.platform files).unsetContainer group).Yields sim fun result after =>
      result = .ok () ∧ Owns attributes { inventory with attachments := rest } after :=
  fun _ => ⟨congrArg Prod.fst (owns.unsetContainer top).1, (owns.unsetContainer top).2⟩

theorem yields_dropPortal (owns : Owns attributes inventory sim) (files : Files.FileTree)
    {portal : HostAddress} {length : Nat} {rest : List (Nat × Nat)}
    (top : inventory.mappings = (portal.value, length) :: rest) :
    ((Simulator.platform files).dropPortal portal).Yields sim fun _ after =>
      Owns attributes { inventory with mappings := rest } after :=
  fun _ => owns.dropPortal top

end Owns

theorem Pool.release_single {World Portal : Type} (platform : Platform World Portal)
    (limits : PoolLimits) (handle : GroupHandle) (first : handle.slot = 0) :
    (Pool.single limits handle).release platform handle = (do
      let detached ← (platform.unsetContainer handle.descriptor).outcome
      let left ← (platform.close handle.container).outcome
      let closed ← (platform.close handle.descriptor).outcome
      return (Result.first [detached, left, closed],
        { limits := limits, groups := [none], containers := [none] })) := by
  obtain ⟨slot, group, descriptor, container⟩ := handle
  cases first
  have held : (Pool.single limits ⟨0, group, descriptor, container⟩).held?
      ⟨0, group, descriptor, container⟩ =
        some { descriptor := descriptor, group := group, container := 0 } :=
    if_pos ⟨rfl, rfl⟩
  unfold Pool.release
  rw [held]
  rfl

def Inventory.withGroup (inventory : Inventory) (handle : GroupHandle) : Inventory :=
  { inventory with
    descriptors := (handle.container.number, .container true) ::
      (handle.descriptor.number, .group handle.group) :: inventory.descriptors
    attachments :=
      (handle.descriptor.number, handle.container.number) :: inventory.attachments }

theorem Inventory.of_cons {live : Live} (lives : List Live) {descriptor : DeviceFd}
    (opened : live.session.devices.accelerator.descriptor = some descriptor) :
    Inventory.of (live :: lives) =
      ((((Inventory.of lives).withGroup live.session.group).withDescriptor
        live.session.containerDevice.number (.device live.container.text)).withDescriptor
          descriptor.number (.device live.session.devices.accelerator.name)).withMapping
            live.session.portal.value Simulator.portalLength := by
  simp only [Inventory.of, List.flatMap_cons, Live.descriptors]
  rw [opened]
  rfl

theorem Owns.releaseGroup {attributes : TileAttributes} {inventory : Inventory} {sim : Simulator}
    {handle : GroupHandle} (owns : Owns attributes (inventory.withGroup handle) sim)
    (limits : PoolLimits) (first : handle.slot = 0) (files : Files.FileTree) :
    ((Pool.single limits handle).release (Simulator.platform files) handle).Yields sim
      fun outcome after => outcome.1 = .ok () ∧ Owns attributes inventory after := by
  have alone : ∀ entry ∈ inventory.attachments, entry.1 ≠ handle.descriptor.number := by
    intro entry member same
    have distinct := (List.nodup_cons.mp owns.attachments.distinct).1
    exact distinct (List.mem_map.mpr ⟨entry, member, same⟩)
  rw [Pool.release_single _ limits _ first]
  refine Logged.Yields.andThen (owns.yields_unsetContainer files rfl) ?_
  rintro _ detached ⟨rfl, owns⟩
  refine Logged.Yields.andThen (owns.yields_close files rfl nofun) ?_
  rintro _ left ⟨rfl, owns⟩
  refine Logged.Yields.andThen (owns.yields_close files rfl fun _ _ => alone) ?_
  rintro _ after ⟨rfl, owns⟩
  exact Logged.Yields.pure ⟨rfl, owns⟩

namespace Live

variable {attributes : TileAttributes} {live : Live} {lives : List Live} {sim : Simulator}

/-- Releasing a session gives back all but its portal, and nothing of it can fail. -/
theorem release (sound : live.Sound)
    (owns : Owns attributes (Inventory.of (live :: lives)) sim) (files : Files.FileTree) :
    (live.session.release (Simulator.platform files)).Yields sim fun outcome after =>
      outcome.1 = .ok () ∧ outcome.2.released = true ∧
        outcome.2.portal = live.session.portal ∧
        Owns attributes { Inventory.of lives with
          mappings := live.window :: (Inventory.of lives).mappings } after := by
  obtain ⟨descriptor, opened⟩ := sound.opened
  obtain ⟨limits, pool⟩ := sound.pool
  have top := congrArg Inventory.descriptors (Inventory.of_cons lives opened)
  rw [live.session.release_eq_releaseOpen _ sound.released
    (congrArg DmaSpace.interruptPage sound.dma) opened, Session.releaseOpen, pool]
  -- The accelerator goes first, then the container object.
  refine Logged.Yields.andThen (owns.yields_close files top nofun) ?_
  rintro _ closed ⟨rfl, owns⟩
  refine Logged.Yields.andThen (owns.yields_close files rfl nofun) ?_
  rintro _ shut ⟨rfl, owns⟩
  -- What is left is the group in its container, beside the portal.
  have grouped : Owns attributes (Inventory.withGroup { Inventory.of lives with
      mappings := live.window :: (Inventory.of lives).mappings } live.session.group) shut := owns
  refine Logged.Yields.andThen (grouped.releaseGroup limits sound.slot files) ?_
  intro _ after ⟨done, owns⟩
  refine Logged.Yields.pure ⟨?_, rfl, rfl, owns⟩
  rw [done]
  rfl

theorem drop_released {session : Session HostAddress} {inventory : Inventory} {length : Nat}
    {rest : List (Nat × Nat)} (released : session.released = true)
    (owns : Owns attributes inventory sim)
    (top : inventory.mappings = (session.portal.value, length) :: rest) (files : Files.FileTree) :
    (session.drop (Simulator.platform files)).Yields sim fun _ after =>
      Owns attributes { inventory with mappings := rest } after := by
  unfold Session.drop Session.release
  rw [if_pos released]
  exact owns.yields_dropPortal files top

theorem drop (sound : live.Sound)
    (owns : Owns attributes (Inventory.of (live :: lives)) sim) (files : Files.FileTree) :
    (live.session.drop (Simulator.platform files)).Yields sim fun _ after =>
      Owns attributes (Inventory.of lives) after := by
  unfold Session.drop
  refine Logged.Yields.andThen (release sound owns files) ?_
  rintro ⟨_, left⟩ after ⟨rfl, -, portal, owns⟩
  have top : live.window :: lives.map window =
      (left.portal.value, Simulator.portalLength) :: lives.map window := by
    rw [show left.portal = live.session.portal from portal]
    rfl
  exact owns.yields_dropPortal files top

theorem teardown (sound : live.Sound)
    (owns : Owns attributes (Inventory.of (live :: lives)) sim) (files : Files.FileTree) :
    (live.session.teardown (Simulator.platform files)).Yields sim fun result after =>
      result = .ok () ∧ Owns attributes (Inventory.of lives) after := by
  unfold Session.teardown
  refine Logged.Yields.andThen (release sound owns files) ?_
  rintro ⟨_, left⟩ after ⟨rfl, released, portal, owns⟩
  have top : live.window :: lives.map window =
      (left.portal.value, Simulator.portalLength) :: lives.map window := by
    rw [show left.portal = live.session.portal from portal]
    rfl
  refine Logged.Yields.andThen (drop_released released owns top files) ?_
  exact fun _ ended owns => Logged.Yields.pure ⟨rfl, owns⟩

end Live

end Passthrough
