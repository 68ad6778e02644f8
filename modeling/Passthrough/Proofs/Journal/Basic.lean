import Passthrough.Proofs.Platform.Hosts

set_option autoImplicit false

/-! A journal of the calls that reach a platform: the operation, the descriptor it was made on,
and the failure if there was one. A call is in order if it does not fail for a descriptor
that is not open, and if it succeeds when it releases something. Firmware calls are not
written down, and neither is giving up a portal, which cannot fail. -/

namespace Passthrough

structure Entry where
  operation : Operation
  subject : Option Int
  failure : Option DriverError
  deriving DecidableEq

def Operation.releases : Operation → Bool
  | .unsetContainer | .unmapDma | .unmap | .close | .closeKind _ => true
  | _ => false

structure Operation.Proper (operation : Operation) (failure : Option DriverError) : Prop where
  known : ∀ name, failure ≠ some (.kernel name (.numbered .badDescriptor))
  released : operation.releases = true → failure = none

namespace Operation.Proper

variable {operation : Operation}

theorem done : operation.Proper none :=
  ⟨fun _ => nofun, fun _ => rfl⟩

theorem refused {name : String} {errno : Errno} (other : errno ≠ .badDescriptor)
    (plain : operation.releases = false) :
    operation.Proper (some (Simulator.refusal name errno)) where
  known := by
    rintro _ ⟨⟩
    exact other rfl
  released releases := by
    rw [plain] at releases
    cases releases

end Operation.Proper

def Entry.Proper (entry : Entry) : Prop :=
  entry.operation.Proper entry.failure

/-- A world, and the calls that were made on it, the first first. -/
structure Journal (World : Type) where
  world : World
  calls : List Entry

namespace Journal

variable {World α : Type}

def opened (world : World) : Journal World :=
  { world := world, calls := [] }

def entered (journal : Journal World) (world : World) (entry : Entry) : Journal World :=
  { world := world, calls := journal.calls ++ [entry] }

def Proper (journal : Journal World) : Prop :=
  ∀ entry ∈ journal.calls, entry.Proper

theorem Proper.entered {journal : Journal World} (proper : journal.Proper) {entry : Entry}
    (next : entry.Proper) (world : World) : (journal.entered world entry).Proper := by
  intro other member
  rcases List.mem_append.mp member with earlier | last
  · exact proper other earlier
  · cases List.mem_singleton.mp last
    exact next

def act (operation : Operation) (subject : Option Int) (action : Act World α) :
    Act (Journal World) α :=
  ExceptT.mk fun start =>
    let ended := action.outcome ⟨start.world.world, start.log⟩
    (ended.1,
      { world := start.world.entered ended.2.world ⟨operation, subject, ended.1.failure?⟩
        log := ended.2.log })

def aside (action : Logged World α) : Logged (Journal World) α :=
  fun start =>
    let ended := action ⟨start.world.world, start.log⟩
    (ended.1, { world := { start.world with world := ended.2.world }, log := ended.2.log })

variable {operation : Operation} {subject : Option Int} {journal : Journal World}

theorem yields_act {action : Act World α} {after : Result α → Journal World → Prop}
    (known : action.Yields journal.world fun result reached =>
      after result (journal.entered reached ⟨operation, subject, result.failure?⟩)) :
    (act operation subject action).Yields journal after :=
  known

theorem yields_aside {action : Logged World α} {after : α → Journal World → Prop}
    (known : action.Yields journal.world fun value reached =>
      after value { journal with world := reached }) :
    (aside action).Yields journal after :=
  known

theorem follows_act {machine : World → Simulator} {refusable : Prop} {action : Act World α}
    {step : Simulator → Result α × Simulator} (follows : action.Follows machine refusable step) :
    (act operation subject action).Follows (fun journal => machine journal.world) refusable step :=
  fun journal => yields_act (follows journal.world)

end Journal

def Platform.journaled {World Portal : Type} (platform : Platform World Portal) :
    Platform (Journal World) Portal :=
  { containerGroup := fun container =>
      Journal.act .containerGroup none (platform.containerGroup container)
    groupDevices := fun group => Journal.act .groupDevices none (platform.groupDevices group)
    openGroup := fun group => Journal.act .openGroup none (platform.openGroup group)
    groupViable := fun group =>
      Journal.act .groupViable group.number (platform.groupViable group)
    setContainer := fun group container =>
      Journal.act .setContainer group.number (platform.setContainer group container)
    unsetContainer := fun group =>
      Journal.act .unsetContainer group.number (platform.unsetContainer group)
    openContainer := Journal.act .openContainer none platform.openContainer
    apiVersion := fun container =>
      Journal.act .apiVersion container.number (platform.apiVersion container)
    hasType1Iommu := fun container =>
      Journal.act .hasType1Iommu container.number (platform.hasType1Iommu container)
    setIommu := fun container =>
      Journal.act .setIommu container.number (platform.setIommu container)
    deviceFd := fun group name =>
      Journal.act .deviceFd group.number (platform.deviceFd group name)
    deviceInfo := fun device =>
      Journal.act .deviceInfo device.number (platform.deviceInfo device)
    mapPortal := fun device => Journal.act .mapPortal device.number (platform.mapPortal device)
    mapDma := fun container host device length =>
      Journal.act .mapDma container.number (platform.mapDma container host device length)
    unmapDma := fun container device length =>
      Journal.act .unmapDma container.number (platform.unmapDma container device length)
    openFile := fun path => Journal.act .openFile none (platform.openFile path)
    mapFile := fun file length =>
      Journal.act .mapFile file.number (platform.mapFile file length)
    mapDevice := fun device offset length =>
      Journal.act .mapDevice device.number (platform.mapDevice device offset length)
    unmap := fun address length => Journal.act .unmap none (platform.unmap address length)
    close := fun {kind} descriptor =>
      Journal.act (.closeKind kind) descriptor.number (platform.close descriptor)
    request := fun portal call =>
      ExceptT.mk (Journal.aside (platform.request portal call).outcome)
    window := platform.window
    dropPortal := fun portal => Journal.aside (platform.dropPortal portal) }

theorem Platform.Hosts.journaled {World : Type} {platform : Platform World HostAddress}
    {machine : World → Simulator} {files : Files.FileTree} {refusable : Operation → Prop}
    (hosts : platform.Hosts machine files refusable) :
    platform.journaled.Hosts (fun journal => machine journal.world) files refusable where
  openFile path := Journal.follows_act (hosts.openFile path)
  mapFile file length := Journal.follows_act (hosts.mapFile file length)
  mapDevice device offset length := Journal.follows_act (hosts.mapDevice device offset length)
  mapDma container host device length :=
    Journal.follows_act (hosts.mapDma container host device length)
  unmapDma container device length :=
    Journal.follows_act (hosts.unmapDma container device length)
  unmap address length := Journal.follows_act (hosts.unmap address length)
  closeFile file := Journal.follows_act (hosts.closeFile file)
  request portal call journal := Journal.yields_aside (hosts.request portal call journal.world)
  containerGroup container := Journal.follows_act (hosts.containerGroup container)
  groupDevices group := Journal.follows_act (hosts.groupDevices group)
  openGroup group := Journal.follows_act (hosts.openGroup group)
  groupViable group := Journal.follows_act (hosts.groupViable group)
  setContainer group container := Journal.follows_act (hosts.setContainer group container)
  unsetContainer group := Journal.follows_act (hosts.unsetContainer group)
  openContainer := Journal.follows_act hosts.openContainer
  apiVersion container := Journal.follows_act (hosts.apiVersion container)
  hasType1Iommu container journal :=
    Journal.yields_act (hosts.hasType1Iommu container journal.world)
  setIommu container := Journal.follows_act (hosts.setIommu container)
  deviceFd group name := Journal.follows_act (hosts.deviceFd group name)
  deviceInfo device := Journal.follows_act (hosts.deviceInfo device)
  mapPortal device := Journal.follows_act (hosts.mapPortal device)
  close descriptor := Journal.follows_act (hosts.close descriptor)
  dropPortal portal journal := Journal.yields_aside (hosts.dropPortal portal journal.world)

end Passthrough
