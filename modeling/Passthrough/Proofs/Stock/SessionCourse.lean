import Passthrough.Proofs.Pool.History
import Passthrough.Proofs.Session.InUse
import Passthrough.Proofs.Stock.Tenancy

set_option autoImplicit false

/-! The course of starting a session and of ending one, where an inventory is kept. A start takes
a group into a pool, or finds it there, and adds the container object, the accelerator and
the portal. Whatever fails on the way, what came before is given back, the group
included; and a session that ends gives back exactly what starting it had added. -/

namespace Passthrough

open Pool.SlotTable (at?)
open Simulator (OpenObject)

/-- A session as starting puts it together, between operations. -/
structure Session.Fitted (accelerator : DeviceFd) (session : Session HostAddress) : Prop where
  dma : session.dma = DmaSpace.make session.group.container session.containerDevice
  released : session.released = false
  opened : session.devices.accelerator.descriptor = some accelerator
  token : session.devices.accelerator.token = none
  companion : session.devices.companion.descriptor = none

theorem Session.Fitted.release_eq {accelerator : DeviceFd} {session : Session HostAddress}
    (fitted : session.Fitted accelerator) {World : Type} (platform : Platform World HostAddress) :
    session.release platform = session.releaseOpen platform accelerator :=
  session.release_eq_releaseOpen platform fitted.released
    (congrArg DmaSpace.interruptPage fitted.dma) fitted.opened

namespace Inventory

def withDevices (inventory : Inventory) (container : ContainerName)
    (session : Session HostAddress) (accelerator : DeviceFd) : Inventory :=
  ((inventory.withDescriptor session.containerDevice.number
    (.device container.text)).withDescriptor accelerator.number
      (.device session.devices.accelerator.name)).withMapping session.portal.value
        Simulator.portalLength

theorem Perm.withDevices {inventory others : Inventory} (same : inventory.Perm others)
    (container : ContainerName) (session : Session HostAddress) (accelerator : DeviceFd) :
    (inventory.withDevices container session accelerator).Perm
      (others.withDevices container session accelerator) :=
  ⟨(same.descriptors.cons _).cons _, same.attachments, same.mappings.cons _⟩

def withSession (inventory : Inventory) (tenure : Tenure) (container : ContainerName)
    (session : Session HostAddress) (accelerator : DeviceFd) : Inventory :=
  (inventory.withTenure tenure).withDevices container session accelerator

end Inventory

/-- What starting does once the group is in the pool. -/
def Session.bring {World Portal : Type} (platform : Platform World Portal) (pool : Pool)
    (handle : GroupHandle) (group : GroupId) (container : ContainerName) :
    Act World (Session Portal) := do
  let containerDevice ←
    (platform.deviceFd handle.descriptor container.text).onFailure fun failure => do
      Logged.error s!"Cannot open container object {container.text}: {failure.message}"
      returnGroup platform pool handle
  let devices ← (DeviceSet.bind platform handle.descriptor group).onFailure fun _ => do
    platform.closeQuietly containerDevice
    returnGroup platform pool handle
  let portal ←
    (mapCompanion platform handle.descriptor devices.companion).onFailure fun _ => do
      closeBound platform devices
      platform.closeQuietly containerDevice
      returnGroup platform pool handle
  let session : Session Portal :=
    { pool := pool
      group := handle
      containerDevice := containerDevice
      dma := DmaSpace.make handle.container containerDevice
      portal := portal
      devices := devices
      released := false }
  (session.probe platform).onFailure fun failure => session.abandon platform failure
  return session

theorem Session.start_eq {World Portal : Type} (platform : Platform World Portal) (pool : Pool)
    (container : ContainerName) :
    Session.start platform pool container = (do
      let group ← platform.containerGroup container
      let (acquired, pool) ← Act.ofLogged (pool.acquire platform group)
      let handle ← Act.ofResult acquired
      Session.bring platform pool handle group container) :=
  rfl

/-- A group that a handle names in a pool, in a container that is live there. -/
structure Pool.Houses (pool : Pool) (handle : GroupHandle) (owned : GroupSlot)
    (host : ContainerSlot) : Prop where
  held : pool.held? handle = some owned
  live : at? pool.containers owned.container = some host

theorem Pool.Houses.opened {pool : Pool} {handle : GroupHandle} {owned : GroupSlot}
    {host : ContainerSlot} (houses : pool.Houses handle owned host) :
    (owned.tenure handle.slot host).group = some (handle.descriptor, handle.group) := by
  obtain ⟨-, group, descriptor⟩ := Pool.at?_of_held? houses.held
  rw [GroupSlot.tenure, group, descriptor]

namespace Inventory.Kept

variable {World : Type} {strange : Prop} {holds : Inventory → World → Prop}
  {platform : Platform World HostAddress} {inventory : Inventory} {world : World}
  (kept : Inventory.Kept strange holds platform)

include kept

theorem closesDeviceQuietly (held : holds inventory world) {device : DeviceFd} {name : String}
    {rest : List (Int × OpenObject)}
    (top : inventory.descriptors = (device.number, .device name) :: rest) :
    (platform.closeQuietly device).Yields world fun _ after =>
      holds { inventory with descriptors := rest } after :=
  Platform.yields_closeQuietly (kept.closeDevice held top)

variable {descriptor : GroupFd} {id : GroupId}

theorem binds (held : holds inventory world)
    (listed : (descriptor.number, .group id) ∈ inventory.descriptors) (group : GroupId) :
    (DeviceSet.bind platform descriptor group).Yields world fun result after =>
      result.Either
        (fun devices => devices.companion.descriptor = none ∧
          devices.accelerator.token = none ∧
          ∃ accelerator, devices.accelerator.descriptor = some accelerator ∧
            holds (inventory.withDescriptor accelerator.number
              (.device devices.accelerator.name)) after)
        (holds inventory after) := by
  unfold DeviceSet.bind
  refine Act.Yields.andThen (kept.groupDevices held group) (fun _ _ held => held) ?_
  intro names after held
  refine Act.Yields.andThen (DeviceSet.yields_first .companion group names after)
    (fun _ _ known => known.1 ▸ held) ?_
  rintro companion after ⟨rfl, unopened, -⟩
  refine Act.Yields.andThen (DeviceSet.yields_first .accelerator group names after)
    (fun _ _ known => known.1 ▸ held) ?_
  rintro accelerator after ⟨rfl, -, tokenless⟩
  refine Act.Yields.andThen (kept.deviceFd held listed accelerator.name)
    (fun _ _ held => held) ?_
  intro device opened held
  refine Act.Yields.cleanOrThen (kept.deviceInfo held List.mem_cons_self) ?_ ?_
  · intro failure after held
    exact Logged.Yields.afterNote (kept.closesDeviceQuietly held rfl)
  · exact fun metadata after held =>
      Act.Yields.pure ⟨unopened, tokenless, device, rfl, held⟩

/-- The companion's descriptor is closed again; its portal stays mapped. -/
theorem mapsCompanion (held : holds inventory world)
    (listed : (descriptor.number, .group id) ∈ inventory.descriptors)
    (companion : DeviceRecord) :
    (Session.mapCompanion platform descriptor companion).Yields world fun result after =>
      result.Either
        (fun portal => holds
          (inventory.withMapping portal.value Simulator.portalLength) after)
        (holds inventory after) := by
  unfold Session.mapCompanion
  refine Act.Yields.andThen (kept.deviceFd held listed companion.name) (fun _ _ held => held) ?_
  intro device opened held
  refine Act.Yields.andThenLogged (kept.mapPortal held List.mem_cons_self) ?_
  intro outcome mapped known
  have shuts : (platform.closeQuietly device).Yields mapped fun _ after => outcome.Either
      (fun portal => holds (inventory.withMapping portal.value Simulator.portalLength) after)
      (holds inventory after) := by
    cases outcome with
    | error failure => exact kept.closesDeviceQuietly known rfl
    | ok portal => exact kept.closesDeviceQuietly known rfl
  refine Act.Yields.andThenLogged shuts ?_
  intro _ after known
  have given : (Act.ofResult outcome).Yields after fun result reached => result.Either
      (fun portal => holds (inventory.withMapping portal.value Simulator.portalLength) reached)
      (holds inventory reached) := Act.Yields.ofResult known
  refine Act.Yields.onFailure given ?_ (fun _ _ known => known)
  exact fun failure _ known => Logged.Yields.note known

variable {pool : Pool} {handle : GroupHandle} {owned : GroupSlot} {host : ContainerSlot}

theorem acquires (sound : pool.Sound)
    (lodged : ∀ entry ∈ pool.roomy, inventory.Lodging strange entry.2.descriptor)
    (held : holds inventory world) (group : GroupId) :
    (pool.acquire platform group).Yields world fun outcome after =>
      outcome.2 = pool ∧ holds inventory after ∧
          (∀ handle, outcome.1 = .ok handle → pool.handleOf? group = some handle) ∨
        ∃ admission : Pool.Admission, pool.Admits admission ∧ admission.owned.group = group ∧
          outcome = (.ok admission.handle, pool.admitting admission) ∧
          holds (inventory.withTenure admission.tenure) after := by
  refine ((kept.tenure inventory).acquire sound lodged ⟨held, nofun⟩ group).mono ?_
  rintro outcome after (⟨same, lodges, known⟩ | ⟨admission, admits, own, same, lodges⟩)
  · exact Or.inl ⟨same, lodges.held, known⟩
  · exact Or.inr ⟨admission, admits, own, same, lodges.held⟩

theorem releases (houses : pool.Houses handle owned host)
    (held : holds (inventory.withTenure (owned.tenure handle.slot host)) world) :
    (pool.release platform handle).Yields world fun outcome after =>
      outcome.2 = pool.evict handle.slot owned host ∧ holds inventory after := by
  have apart : ∀ entry ∈ inventory.attachments, entry.1 ≠ owned.descriptor.number := by
    intro entry member same
    have distinct := (List.nodup_cons.mp (kept.distinct held)).1
    exact distinct (List.mem_map.mpr ⟨entry, member, same⟩)
  have lodges : Lodges holds inventory (owned.tenure handle.slot host) world := by
    refine ⟨held, ?_⟩
    rintro _ _ ⟨⟩
    exact apart
  exact ((kept.tenure inventory).release houses.held houses.live lodges).mono
    fun _ _ known => ⟨known.1, known.2.held⟩

theorem returnsGroup (houses : pool.Houses handle owned host)
    (held : holds (inventory.withTenure (owned.tenure handle.slot host)) world) :
    (Session.returnGroup platform pool handle).Yields world fun _ after =>
      holds inventory after := by
  unfold Session.returnGroup
  refine Logged.Yields.andThen (kept.releases houses held) ?_
  rintro ⟨outcome, _⟩ after ⟨-, held⟩
  cases outcome with
  | ok _ => exact Logged.Yields.pure held
  | error failure => exact Logged.Yields.note held

variable {container : ContainerName} {accelerator : DeviceFd} {session : Session HostAddress}

theorem releasesSession (fitted : session.Fitted accelerator)
    (houses : session.pool.Houses session.group owned host)
    (held : holds (inventory.withSession (owned.tenure session.group.slot host) container session
      accelerator) world) :
    (session.release platform).Yields world fun outcome after =>
      outcome.2.released = true ∧ outcome.2.portal = session.portal ∧
        holds (inventory.withMapping session.portal.value Simulator.portalLength) after := by
  rw [fitted.release_eq, Session.releaseOpen]
  refine Logged.Yields.andThen (kept.closeDevice held rfl) ?_
  intro _ closed held
  refine Logged.Yields.andThen (kept.closeDevice held rfl) ?_
  intro _ shut held
  have left : holds ((inventory.withMapping session.portal.value Simulator.portalLength).withTenure
      (owned.tenure session.group.slot host)) shut := held
  refine Logged.Yields.andThen (kept.releases houses left) ?_
  exact fun _ after left => Logged.Yields.pure ⟨rfl, rfl, left.2⟩

theorem dropsPortal (released : session.released = true)
    (held : holds (inventory.withMapping session.portal.value Simulator.portalLength) world) :
    (session.drop platform).Yields world fun _ after => holds inventory after := by
  unfold Session.drop Session.release
  rw [if_pos released, pure_bind]
  exact kept.dropPortal held rfl

private theorem releasesAndDrops {α : Type} (fitted : session.Fitted accelerator)
    (houses : session.pool.Houses session.group owned host)
    (held : holds (inventory.withSession (owned.tenure session.group.slot host) container session
      accelerator) world)
    {next : Result Unit × Session HostAddress → Logged World α}
    (rest : ∀ outcome left reached, (left.drop platform).Yields reached
      (fun _ after => holds inventory after) → (next (outcome, left)).Yields reached
        fun _ after => holds inventory after) :
    (session.release platform >>= next).Yields world fun _ after => holds inventory after := by
  refine Logged.Yields.andThen (kept.releasesSession fitted houses held) ?_
  rintro ⟨outcome, left⟩ after ⟨released, portal, held⟩
  rw [← portal] at held
  exact rest outcome left after (kept.dropsPortal released held)

theorem tearsDown (fitted : session.Fitted accelerator)
    (houses : session.pool.Houses session.group owned host)
    (held : holds (inventory.withSession (owned.tenure session.group.slot host) container session
      accelerator) world) :
    (session.teardown platform).Yields world fun _ after => holds inventory after := by
  refine kept.releasesAndDrops fitted houses held ?_
  intro outcome left reached drops
  exact Logged.Yields.andThen drops fun _ _ held => Logged.Yields.pure held

theorem drops (fitted : session.Fitted accelerator)
    (houses : session.pool.Houses session.group owned host)
    (held : holds (inventory.withSession (owned.tenure session.group.slot host) container session
      accelerator) world) :
    (session.drop platform).Yields world fun _ after => holds inventory after := by
  unfold Session.drop
  refine Logged.Yields.andThen (kept.releasesSession fitted houses held) ?_
  rintro ⟨outcome, left⟩ after ⟨-, portal, held⟩
  dsimp only
  rw [portal]
  cases outcome with
  | ok _ => exact kept.dropPortal held rfl
  | error failure => exact Logged.Yields.afterNote (kept.dropPortal held rfl)

theorem abandons (fitted : session.Fitted accelerator)
    (houses : session.pool.Houses session.group owned host)
    (held : holds (inventory.withSession (owned.tenure session.group.slot host) container session
      accelerator) world) (failure : DriverError) :
    (session.abandon platform failure).Yields world fun _ after => holds inventory after := by
  unfold Session.abandon
  refine Logged.Yields.afterNote (kept.releasesAndDrops fitted houses held ?_)
  intro outcome left reached drops
  cases outcome with
  | ok _ => exact drops
  | error failure => exact Logged.Yields.afterNote drops

/-- With its group in the pool, a session comes to be as its probe leaves it; otherwise everything
is given back, and the group as well. -/
theorem brings (houses : pool.Houses handle owned host)
    (held : holds (inventory.withTenure (owned.tenure handle.slot host)) world)
    (container : ContainerName) (group : GroupId)
    (ready : DeviceFd → Session HostAddress → World → Prop)
    (probes : ∀ accelerator session reached, session.Fitted accelerator → session.pool = pool →
      session.group = handle →
      holds (inventory.withSession (owned.tenure handle.slot host) container session accelerator)
        reached →
      (session.probe platform).Yields reached fun result after => result.Either
        (fun _ => ready accelerator session after)
        (holds (inventory.withSession (owned.tenure handle.slot host) container session
          accelerator) after)) :
    (Session.bring platform pool handle group container).Yields world fun result after =>
      result.Either
        (fun session => ∃ accelerator, session.Fitted accelerator ∧ session.pool = pool ∧
          session.group = handle ∧ ready accelerator session after)
        (holds inventory after) := by
  have listed := inventory.group_mem_withTenure houses.opened
  unfold Session.bring
  -- The container object, then both objects of the session, then the portal.
  refine Act.Yields.cleanOrThen (kept.deviceFd held listed container.text) ?_ ?_
  · exact fun failure after held => Logged.Yields.afterNote (kept.returnsGroup houses held)
  intro device after held
  refine Act.Yields.cleanOrThen (kept.binds held (List.mem_cons_of_mem _ listed) group) ?_ ?_
  · intro failure after held
    refine Logged.Yields.andThen (kept.closesDeviceQuietly held rfl) ?_
    exact fun _ closed held => kept.returnsGroup houses held
  rintro devices after ⟨unopened, tokenless, accelerator, opened, held⟩
  have bound : Session.closeBound platform devices = platform.closeQuietly accelerator := by
    unfold Session.closeBound
    rw [opened]
  refine Act.Yields.cleanOrThen (kept.mapsCompanion held
    (List.mem_cons_of_mem _ (List.mem_cons_of_mem _ listed)) devices.companion) ?_ ?_
  · intro failure after held
    rw [bound]
    refine Logged.Yields.andThen (kept.closesDeviceQuietly held rfl) ?_
    intro _ after held
    refine Logged.Yields.andThen (kept.closesDeviceQuietly held rfl) ?_
    exact fun _ closed held => kept.returnsGroup houses held
  intro portal after held
  let session : Session HostAddress :=
    { pool := pool
      group := handle
      containerDevice := device
      dma := DmaSpace.make handle.container device
      portal := portal
      devices := devices
      released := false }
  have fitted : session.Fitted accelerator := ⟨rfl, rfl, opened, tokenless, unopened⟩
  refine Act.Yields.cleanOrThen (probes accelerator session after fitted rfl rfl held) ?_ ?_
  · exact fun failure reached held => kept.abandons fitted houses held failure
  · exact fun _ reached known => Act.Yields.pure ⟨accelerator, fitted, rfl, rfl, known⟩

end Inventory.Kept

end Passthrough
