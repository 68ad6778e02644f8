import Passthrough.Proofs.Journal.InOrder
import Passthrough.Proofs.Simulator.CallFrames
import Passthrough.Proofs.Simulator.Orderly

set_option autoImplicit false

/-! What a platform keeps as long as it is used with care. Every operation is made on what is
open, attached, registered or mapped at the time, and only some calls are made to the
firmware; then whatever is said of a world stays true of it. A journal of the simulated
machine stays in order, and a law of the tile holds if no call to the firmware breaks it. -/

namespace Passthrough

open Files (FileTree)

variable {World : Type}

/-- Used with care, a platform keeps its worlds fine. -/
structure Platform.Minds (platform : Platform World HostAddress) (machine : World → Simulator)
    (fine : World → Prop) (allows : Call → Prop) : Prop where
  containerGroup {world : World} (well : fine world) (container : ContainerName) :
    (platform.containerGroup container).Yields world fun _ after => fine after
  groupDevices {world : World} (well : fine world) (group : GroupId) :
    (platform.groupDevices group).Yields world fun _ after => fine after
  openGroup {world : World} (well : fine world) (group : GroupId) :
    (platform.openGroup group).Yields world fun _ after => fine after
  groupViable {world : World} (well : fine world) {descriptor : GroupFd} {group : GroupId}
    (opened : (machine world).descriptors[descriptor.number]? = some (.group group)) :
    (platform.groupViable descriptor).Yields world fun _ after => fine after
  setContainer {world : World} (well : fine world) {descriptor : GroupFd} {group : GroupId}
    (opened : (machine world).descriptors[descriptor.number]? = some (.group group))
    {container : ContainerFd} {translating : Bool}
    (live : (machine world).descriptors[container.number]? = some (.container translating)) :
    (platform.setContainer descriptor container).Yields world fun _ after => fine after
  unsetContainer {world : World} (well : fine world) {descriptor : GroupFd} {container : Int}
    (attached : (machine world).attachments[descriptor.number]? = some container) :
    (platform.unsetContainer descriptor).Yields world fun _ after => fine after
  openContainer {world : World} (well : fine world) :
    platform.openContainer.Yields world fun _ after => fine after
  apiVersion {world : World} (well : fine world) {container : ContainerFd} {translating : Bool}
    (live : (machine world).descriptors[container.number]? = some (.container translating)) :
    (platform.apiVersion container).Yields world fun _ after => fine after
  hasType1Iommu {world : World} (well : fine world) {container : ContainerFd}
    {translating : Bool}
    (live : (machine world).descriptors[container.number]? = some (.container translating)) :
    (platform.hasType1Iommu container).Yields world fun _ after => fine after
  setIommu {world : World} (well : fine world) {container : ContainerFd} {translating : Bool}
    (live : (machine world).descriptors[container.number]? = some (.container translating)) :
    (platform.setIommu container).Yields world fun _ after => fine after
  deviceFd {world : World} (well : fine world) {descriptor : GroupFd} {group : GroupId}
    (opened : (machine world).descriptors[descriptor.number]? = some (.group group))
    (name : String) :
    (platform.deviceFd descriptor name).Yields world fun _ after => fine after
  deviceInfo {world : World} (well : fine world) {device : DeviceFd} {name : String}
    (opened : (machine world).descriptors[device.number]? = some (.device name)) :
    (platform.deviceInfo device).Yields world fun _ after => fine after
  mapPortal {world : World} (well : fine world) {device : DeviceFd} {name : String}
    (opened : (machine world).descriptors[device.number]? = some (.device name)) :
    (platform.mapPortal device).Yields world fun _ after => fine after
  mapDma {world : World} (well : fine world) {container : ContainerFd} {translating : Bool}
    (live : (machine world).descriptors[container.number]? = some (.container translating))
    (host : HostAddress) (device : DeviceAddress) (length : Nat) :
    (platform.mapDma container host device length).Yields world fun _ after => fine after
  unmapDma {world : World} (well : fine world) {container : ContainerFd} {device : DeviceAddress}
    {size : Nat}
    (registered :
      (machine world).registrations[(container.number, device.value)]? = some size)
    (length : Nat) :
    (platform.unmapDma container device length).Yields world fun _ after => fine after
  openFile {world : World} (well : fine world) (path : String) :
    (platform.openFile path).Yields world fun _ after => fine after
  mapFile {world : World} (well : fine world) {file : FileFd}
    (opened : (machine world).descriptors[file.number]? = some .file) (length : Nat) :
    (platform.mapFile file length).Yields world fun _ after => fine after
  mapDevice {world : World} (well : fine world) {device : DeviceFd} {name : String}
    (opened : (machine world).descriptors[device.number]? = some (.device name))
    (offset : UInt64) (length : Nat) :
    (platform.mapDevice device offset length).Yields world fun _ after => fine after
  unmap {world : World} (well : fine world) {address : HostAddress} {length : Nat}
    (mapped : (machine world).mappings[address.value]? = some length) :
    (platform.unmap address length).Yields world fun _ after => fine after
  close {world : World} (well : fine world) {kind : DescriptorKind} {descriptor : Descriptor kind}
    {object : Simulator.OpenObject}
    (opened : (machine world).descriptors[descriptor.number]? = some object) :
    (platform.close descriptor).Yields world fun _ after => fine after
  request {world : World} (well : fine world) (portal : HostAddress) {call : Call}
    (allowed : allows call) :
    (platform.request portal call).Yields world fun _ after => fine after
  dropPortal {world : World} (well : fine world) (portal : HostAddress) :
    (platform.dropPortal portal).Yields world fun _ after => fine after

theorem Gate.yields_guard {α : Type} (gate : Gate) (operation : Operation)
    {action : Act World α} {world : World} {after : World → Prop} (unchanged : after world)
    (passed : action.Yields world fun _ reached => after reached) :
    (gate.guard operation action).Yields world fun _ reached => after reached := by
  unfold guard
  split
  · exact Act.Yields.throw unchanged
  · exact passed

theorem Gate.minds_inFront (gate : Gate) {platform : Platform World HostAddress}
    {machine : World → Simulator} {fine : World → Prop} {allows : Call → Prop}
    (minds : platform.Minds machine fine allows) :
    (gate.inFront platform).Minds machine fine allows where
  containerGroup well container := gate.yields_guard _ well (minds.containerGroup well container)
  groupDevices well group := gate.yields_guard _ well (minds.groupDevices well group)
  openGroup well group := gate.yields_guard _ well (minds.openGroup well group)
  groupViable well _ _ opened := gate.yields_guard _ well (minds.groupViable well opened)
  setContainer well _ _ opened _ _ live :=
    gate.yields_guard _ well (minds.setContainer well opened live)
  unsetContainer well _ _ attached :=
    gate.yields_guard _ well (minds.unsetContainer well attached)
  openContainer well := gate.yields_guard _ well (minds.openContainer well)
  apiVersion well _ _ live := gate.yields_guard _ well (minds.apiVersion well live)
  hasType1Iommu well _ _ live := by
    refine gate.yields_guard _ well ?_
    refine Act.Yields.andThen (minds.hasType1Iommu well live) (fun _ _ well => well) ?_
    exact fun _ _ well => Act.Yields.pure well
  setIommu well _ _ live := gate.yields_guard _ well (minds.setIommu well live)
  deviceFd well _ _ opened name := gate.yields_guard _ well (minds.deviceFd well opened name)
  deviceInfo well _ _ opened := gate.yields_guard _ well (minds.deviceInfo well opened)
  mapPortal well _ _ opened := gate.yields_guard _ well (minds.mapPortal well opened)
  mapDma well _ _ live host device length :=
    gate.yields_guard _ well (minds.mapDma well live host device length)
  unmapDma well _ _ _ registered length :=
    gate.yields_guard _ well (minds.unmapDma well registered length)
  openFile well path := gate.yields_guard _ well (minds.openFile well path)
  mapFile well _ opened length := gate.yields_guard _ well (minds.mapFile well opened length)
  mapDevice well _ _ opened offset length :=
    gate.yields_guard _ well (minds.mapDevice well opened offset length)
  unmap well _ _ mapped := gate.yields_guard _ well (minds.unmap well mapped)
  close well _ _ _ opened := gate.yields_guard _ well (minds.close well opened)
  request := minds.request
  dropPortal := minds.dropPortal

structure Journal.Sound (law : Tile → Prop) (journal : Journal Simulator) : Prop where
  proper : journal.Proper
  orderly : journal.world.Orderly
  tile : law journal.world.tile

namespace Journal.Sound

variable {law : Tile → Prop} {journal : Journal Simulator} {operation : Operation}
  {subject : Option Int} {α : Type}

theorem yields_act (sound : journal.Sound law) {step : Simulator → Result α × Simulator}
    (proper : operation.Proper (step journal.world).1.failure?)
    (next : (step journal.world).2.Orderly)
    (same : (step journal.world).2.tile = journal.world.tile) :
    (Journal.act operation subject (Act.ofWorld step)).Yields journal
      fun _ after => after.Sound law := by
  have entry : Entry.Proper ⟨operation, subject, (step journal.world).1.failure?⟩ := proper
  refine Journal.yields_act fun _ => ⟨sound.proper.entered entry _, next, ?_⟩
  change law (step journal.world).2.tile
  rw [same]
  exact sound.tile

theorem yields_ask (sound : journal.Sound law) {question : Simulator → Result α}
    (proper : operation.Proper (question journal.world).failure?) :
    (Journal.act operation subject (Simulator.ask question)).Yields journal
      fun _ after => after.Sound law :=
  sound.yields_act proper sound.orderly rfl

end Journal.Sound

open Simulator in
theorem Simulator.minds_journaled (files : FileTree) {law : Tile → Prop} {allows : Call → Prop}
    (stable : ∀ call, allows call → ∀ sim : Simulator, law sim.tile →
      law (sim.serve call).2.tile) :
    (Simulator.platform files).journaled.Minds Journal.world (Journal.Sound law) allows where
  containerGroup sound container := sound.yields_ask (proper_containerGroup _ container)
  groupDevices sound group := sound.yields_ask (proper_groupDevices _ group)
  openGroup sound group := sound.yields_act (proper_openGroup _ group)
    (sound.orderly.step (.openGroup group)) (tile_openGroup _ group)
  groupViable sound _ _ opened := sound.yields_ask (proper_groupViable opened)
  setContainer sound descriptor _ opened container _ live :=
    sound.yields_act (proper_setContainer opened live)
      (sound.orderly.step (.setContainer descriptor container)) (tile_setContainer _ _ _)
  unsetContainer sound descriptor _ attached :=
    sound.yields_act (proper_unsetContainer attached)
      (sound.orderly.step (.unsetContainer descriptor)) (tile_unsetContainer _ _)
  openContainer sound :=
    sound.yields_act (proper_openContainer _) (sound.orderly.step .openContainer) rfl
  apiVersion sound _ _ live := sound.yields_ask (proper_apiVersion live)
  hasType1Iommu sound _ _ live := sound.yields_ask (proper_hasType1Iommu live)
  setIommu sound container _ live :=
    sound.yields_act (proper_setIommu live) (sound.orderly.step (.setIommu container))
      (tile_setIommu _ _)
  deviceFd sound descriptor _ opened name :=
    sound.yields_act (proper_deviceFd opened name)
      (sound.orderly.step (.deviceFd descriptor name)) (tile_deviceFd _ _ _)
  deviceInfo sound _ _ opened := sound.yields_ask (proper_deviceInfo opened)
  mapPortal sound device _ opened :=
    sound.yields_act (proper_mapPortal opened) (sound.orderly.step (.mapPortal device))
      (tile_mapPortal _ _)
  mapDma sound container _ live host device length :=
    sound.yields_act (proper_mapDma live host device length)
      (sound.orderly.step (.mapDma container host device length))
      (Aside.mapDma _ _ _ _ _).tile_eq
  unmapDma sound container device _ registered length :=
    sound.yields_act (proper_unmapDma registered length)
      (sound.orderly.step (.unmapDma container device length)) (Aside.unmapDma _ _ _ _).tile_eq
  openFile sound path := sound.yields_act (proper_openFile files _ path)
    (sound.orderly.step (.openFile files path)) (Aside.openFile _ files path).tile_eq
  mapFile sound file opened length := sound.yields_act (proper_mapFile opened length)
    (sound.orderly.step (.mapFile file length)) (Aside.mapFile _ _ _).tile_eq
  mapDevice sound device _ opened offset length :=
    sound.yields_act (proper_mapDevice opened offset length)
      (sound.orderly.step (.mapDevice device offset length)) (Aside.mapDevice _ _ _ _).tile_eq
  unmap sound address length mapped := sound.yields_act (proper_unmap mapped)
    (sound.orderly.step (.unmap address length)) (Aside.unmap _ _ _).tile_eq
  close sound _ descriptor _ opened := sound.yields_act (proper_close opened _)
    (sound.orderly.step (.close descriptor.number)) (tile_close _ _)
  request {journal} sound portal call allowed := by
    refine Journal.yields_aside
      (((Simulator.fronts_platform files).request portal call journal.world).mono ?_)
    rintro _ after ⟨-, portals, reached⟩
    have change := Simulator.serve_change journal.world call
    have moved : after = ((journal.world.serve call).2).withPortals portals := reached
    refine ⟨sound.proper, ?_, ?_⟩
    · change after.Orderly
      rw [moved]
      exact sound.orderly.firmware (change.withPortals portals)
    · change law after.tile
      rw [moved]
      exact stable call allowed journal.world sound.tile
  dropPortal sound portal := Journal.yields_aside fun _ =>
    ⟨sound.proper, sound.orderly.step (.dropPortal portal), sound.tile⟩

end Passthrough
