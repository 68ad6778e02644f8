import Passthrough.Proofs.Platform.Hosts
import Passthrough.Proofs.Stock.Stocked

set_option autoImplicit false

/-! The rules by which the calls of a platform move an inventory. What an inventory means in
a world is left open: that a machine holds it, that the calls so far were in order, or
both. Every rule says what must be listed for its call to be made, so that whoever keeps
to the rules uses nothing that is not there. -/

namespace Passthrough

open Simulator (OpenObject)

variable {World : Type}

/-- Whether groups may be attached to containers that are not listed is left to a parameter. -/
structure Inventory.Kept (strange : Prop) (holds : Inventory → World → Prop)
    (platform : Platform World HostAddress) : Prop where
  perm {inventory others : Inventory} {world : World} (held : holds inventory world)
    (reordered : inventory.Perm others) : holds others world
  /-- No group is attached twice. -/
  distinct {inventory : Inventory} {world : World} (held : holds inventory world) :
    (inventory.attachments.map Prod.fst).Nodup
  containerGroup {inventory : Inventory} {world : World} (held : holds inventory world)
    (container : ContainerName) :
    (platform.containerGroup container).Yields world fun _ after => holds inventory after
  groupDevices {inventory : Inventory} {world : World} (held : holds inventory world)
    (group : GroupId) :
    (platform.groupDevices group).Yields world fun _ after => holds inventory after
  openGroup {inventory : Inventory} {world : World} (held : holds inventory world)
    (group : GroupId) :
    (platform.openGroup group).Yields world fun result after =>
      result.Either
        (fun descriptor => (∀ entry ∈ inventory.attachments, entry.1 ≠ descriptor.number) ∧
          holds (inventory.withDescriptor descriptor.number (.group group)) after)
        (holds inventory after)
  groupViable {inventory : Inventory} {world : World} (held : holds inventory world)
    {descriptor : GroupFd} {group : GroupId}
    (listed : (descriptor.number, .group group) ∈ inventory.descriptors) :
    (platform.groupViable descriptor).Yields world fun _ after => holds inventory after
  setContainer {inventory : Inventory} {world : World} (held : holds inventory world)
    {descriptor : GroupFd} {group : GroupId}
    (listed : (descriptor.number, .group group) ∈ inventory.descriptors) {container : ContainerFd}
    (known : strange ∨ ∃ translating,
      (container.number, .container translating) ∈ inventory.descriptors) :
    (platform.setContainer descriptor container).Yields world fun result after =>
      result.Either
        (fun _ => holds (inventory.withAttachment descriptor.number container.number) after)
        (holds inventory after)
  unsetContainer {inventory : Inventory} {world : World} (held : holds inventory world)
    {descriptor : GroupFd} {group : GroupId}
    (listed : (descriptor.number, .group group) ∈ inventory.descriptors) {container : Int}
    (attached : (descriptor.number, container) ∈ inventory.attachments) :
    (platform.unsetContainer descriptor).Yields world fun result after =>
      result.Either (fun _ => holds (inventory.detached descriptor.number) after)
        (holds inventory after)
  openContainer {inventory : Inventory} {world : World} (held : holds inventory world) :
    platform.openContainer.Yields world fun result after =>
      result.Either
        (fun container =>
          holds (inventory.withDescriptor container.number (.container false)) after)
        (holds inventory after)
  apiVersion {inventory : Inventory} {world : World} (held : holds inventory world)
    {container : ContainerFd} {translating : Bool}
    (listed : (container.number, .container translating) ∈ inventory.descriptors) :
    (platform.apiVersion container).Yields world fun _ after => holds inventory after
  hasType1Iommu {inventory : Inventory} {world : World} (held : holds inventory world)
    {container : ContainerFd} {translating : Bool}
    (listed : (container.number, .container translating) ∈ inventory.descriptors) :
    (platform.hasType1Iommu container).Yields world fun _ after => holds inventory after
  setIommu {inventory : Inventory} {world : World} (held : holds inventory world)
    {container : ContainerFd} {translating : Bool} {rest : List (Int × OpenObject)}
    (top : inventory.descriptors = (container.number, .container translating) :: rest) :
    (platform.setIommu container).Yields world fun result after =>
      result.Either
        (fun _ => holds
          { inventory with descriptors := (container.number, .container true) :: rest } after)
        (holds inventory after)
  deviceFd {inventory : Inventory} {world : World} (held : holds inventory world)
    {descriptor : GroupFd} {group : GroupId}
    (listed : (descriptor.number, .group group) ∈ inventory.descriptors) (name : String) :
    (platform.deviceFd descriptor name).Yields world fun result after =>
      result.Either
        (fun device => holds (inventory.withDescriptor device.number (.device name)) after)
        (holds inventory after)
  deviceInfo {inventory : Inventory} {world : World} (held : holds inventory world)
    {device : DeviceFd} {name : String}
    (listed : (device.number, .device name) ∈ inventory.descriptors) :
    (platform.deviceInfo device).Yields world fun _ after => holds inventory after
  mapPortal {inventory : Inventory} {world : World} (held : holds inventory world)
    {device : DeviceFd} {name : String}
    (listed : (device.number, .device name) ∈ inventory.descriptors) :
    (platform.mapPortal device).Yields world fun result after =>
      result.Either
        (fun portal => holds (inventory.withMapping portal.value Simulator.portalLength) after)
        (holds inventory after)
  closeGroup {inventory : Inventory} {world : World} (held : holds inventory world)
    {descriptor : GroupFd} {group : GroupId} {rest : List (Int × OpenObject)}
    (top : inventory.descriptors = (descriptor.number, .group group) :: rest) :
    (platform.close descriptor).Yields world fun _ after =>
      holds { inventory.detached descriptor.number with descriptors := rest } after
  closeContainer {inventory : Inventory} {world : World} (held : holds inventory world)
    {container : ContainerFd} {translating : Bool} {rest : List (Int × OpenObject)}
    (top : inventory.descriptors = (container.number, .container translating) :: rest) :
    (platform.close container).Yields world fun _ after =>
      holds { inventory with descriptors := rest } after
  closeDevice {inventory : Inventory} {world : World} (held : holds inventory world)
    {device : DeviceFd} {name : String} {rest : List (Int × OpenObject)}
    (top : inventory.descriptors = (device.number, .device name) :: rest) :
    (platform.close device).Yields world fun _ after =>
      holds { inventory with descriptors := rest } after
  dropPortal {inventory : Inventory} {world : World} (held : holds inventory world)
    {portal : HostAddress} {length : Nat} {rest : List (Nat × Nat)}
    (top : inventory.mappings = (portal.value, length) :: rest) :
    (platform.dropPortal portal).Yields world fun _ after =>
      holds { inventory with mappings := rest } after

namespace Platform.Hosts

variable {platform : Platform World HostAddress} {machine : World → Simulator}
  {files : Files.FileTree} {refusable : Operation → Prop} {lenient : Prop}

theorem closesOrForgets (hosts : platform.Hosts machine files refusable)
    (closes : ∀ kind, refusable (.closeKind kind) → lenient) {kind : DescriptorKind}
    (descriptor : Descriptor kind) {world : World} {after : Simulator → Prop}
    (closed : after ((machine world).close descriptor.number).2)
    (forgotten : lenient → after (machine world)) :
    (platform.close descriptor).Yields world fun _ reached => after (machine reached) := by
  refine (hosts.close descriptor world).mono ?_
  rintro result reached (same | ⟨refused, -, same⟩)
  · rw [show machine reached = _ from congrArg Prod.snd same]
    exact closed
  · rw [same]
    exact forgotten (closes kind refused)

/-- Whatever else is refused, the machine goes on holding an inventory that is kept by the rules. -/
theorem keepsStock (hosts : platform.Hosts machine files refusable)
    (closes : ∀ kind, refusable (.closeKind kind) → lenient) (base : Simulator) :
    Inventory.Kept True
      (fun inventory world => Stocked lenient base inventory (machine world)) platform where
  perm held reordered := held.perm reordered
  distinct held := held.attachments.distinct
  containerGroup held container := by
    refine ((hosts.containerGroup container).asks _).mono ?_
    rintro _ after same
    exact same ▸ held
  groupDevices held group := by
    refine ((hosts.groupDevices group).asks _).mono ?_
    rintro _ after same
    exact same ▸ held
  openGroup {inventory world} held group := by
    have opens := held.openGroup group
    refine (hosts.openGroup group world).mono ?_
    rintro result after (same | ⟨-, ⟨failure, rfl⟩, same⟩)
    · rw [show (machine world).openGroup group = _ from same.symm] at opens
      exact opens
    · change Stocked lenient base inventory (machine after)
      rw [same]
      exact held
  groupViable held descriptor _ _ := by
    refine ((hosts.groupViable descriptor).asks _).mono ?_
    rintro _ after same
    exact same ▸ held
  setContainer held descriptor _ _ container _ :=
    (hosts.setContainer descriptor container).either held (held.setContainer descriptor container)
  unsetContainer held descriptor _ listed _ _ :=
    (hosts.unsetContainer descriptor).either held (held.unsetContainer listed)
  openContainer held := hosts.openContainer.either held held.openContainer
  apiVersion held container _ _ := by
    refine ((hosts.apiVersion container).asks _).mono ?_
    rintro _ after same
    exact same ▸ held
  hasType1Iommu held container _ _ := by
    refine (hosts.hasType1Iommu container _).mono ?_
    rintro _ after same
    exact same ▸ held
  setIommu held container _ _ top := (hosts.setIommu container).either held (held.setIommu top)
  deviceFd held descriptor _ _ name :=
    (hosts.deviceFd descriptor name).either held (held.deviceFd descriptor name)
  deviceInfo held device _ _ := by
    refine ((hosts.deviceInfo device).asks _).mono ?_
    rintro _ after same
    exact same ▸ held
  mapPortal held device _ _ := (hosts.mapPortal device).either held (held.mapPortal device)
  closeGroup held descriptor _ _ top := by
    refine hosts.closesOrForgets closes descriptor (held.closeGroup top).2 fun allowed => ?_
    exact held.part allowed ⟨top ▸ List.sublist_cons_self _ _, List.filter_sublist, .refl _⟩
  closeContainer held container _ _ top := by
    refine hosts.closesOrForgets closes container (held.closeContainer top).2 fun allowed => ?_
    exact held.part allowed ⟨top ▸ List.sublist_cons_self _ _, .refl _, .refl _⟩
  closeDevice held device _ _ top := by
    refine hosts.closesOrForgets closes device (held.closePlain top nofun nofun).2
      fun allowed => ?_
    exact held.part allowed ⟨top ▸ List.sublist_cons_self _ _, .refl _, .refl _⟩
  dropPortal held portal _ _ top := by
    refine (hosts.dropPortal portal _).mono ?_
    intro _ after dropped
    rw [dropped]
    exact held.dropPortal top

end Platform.Hosts

end Passthrough
