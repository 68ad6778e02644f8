import Passthrough.Proofs.Platform.Fronts

set_option autoImplicit false

/-! Platforms that stand in front of a simulated machine with all that starting and ending a
session needs. As with the operations of a load, each either acts on the machine or is
refused without reaching it. Only the answer about the IOMMU mode may be another than the
machine's. -/

namespace Passthrough

open Files (FileTree)

variable {World : Type}

structure Platform.Hosts (platform : Platform World HostAddress) (machine : World → Simulator)
    (files : FileTree) (refusable : Operation → Prop) : Prop
    extends platform.Fronts machine files refusable where
  containerGroup : ∀ container, (platform.containerGroup container).Follows machine
    (refusable .containerGroup) fun sim => (sim.containerGroup container, sim)
  groupDevices : ∀ group, (platform.groupDevices group).Follows machine (refusable .groupDevices)
    fun sim => (sim.groupDevices group, sim)
  openGroup : ∀ group, (platform.openGroup group).Follows machine (refusable .openGroup)
    fun sim => sim.openGroup group
  groupViable : ∀ group, (platform.groupViable group).Follows machine (refusable .groupViable)
    fun sim => (sim.groupViable group, sim)
  setContainer : ∀ group container, (platform.setContainer group container).Follows machine
    (refusable .setContainer) fun sim => sim.setContainer group container
  unsetContainer : ∀ group, (platform.unsetContainer group).Follows machine
    (refusable .unsetContainer) fun sim => sim.unsetContainer group
  openContainer : platform.openContainer.Follows machine (refusable .openContainer)
    fun sim => sim.openContainer
  apiVersion : ∀ container, (platform.apiVersion container).Follows machine
    (refusable .apiVersion) fun sim => (sim.reportedApiVersion container, sim)
  hasType1Iommu : ∀ container world, (platform.hasType1Iommu container).Yields world
    fun _ after => machine after = machine world
  setIommu : ∀ container, (platform.setIommu container).Follows machine (refusable .setIommu)
    fun sim => sim.setIommu container
  deviceFd : ∀ group name, (platform.deviceFd group name).Follows machine (refusable .deviceFd)
    fun sim => sim.deviceFd group name
  deviceInfo : ∀ device, (platform.deviceInfo device).Follows machine (refusable .deviceInfo)
    fun sim => (sim.deviceInfo device, sim)
  mapPortal : ∀ device, (platform.mapPortal device).Follows machine (refusable .mapPortal)
    fun sim => sim.mapPortal device
  close : ∀ {kind : DescriptorKind} (descriptor : Descriptor kind),
    (platform.close descriptor).Follows machine (refusable (.closeKind kind))
      fun sim => sim.close descriptor.number
  dropPortal : ∀ portal world, (platform.dropPortal portal).Yields world fun _ after =>
    machine after = (machine world).dropPortal portal

theorem Simulator.hosts_platform (files : FileTree) :
    (Simulator.platform files).Hosts id files fun _ => False where
  toFronts := Simulator.fronts_platform files
  containerGroup _ := follows_ofWorld _
  groupDevices _ := follows_ofWorld _
  openGroup _ := follows_ofWorld _
  groupViable _ := follows_ofWorld _
  setContainer _ _ := follows_ofWorld _
  unsetContainer _ := follows_ofWorld _
  openContainer := follows_ofWorld _
  apiVersion _ := follows_ofWorld _
  hasType1Iommu _ _ _ := rfl
  setIommu _ := follows_ofWorld _
  deviceFd _ _ := follows_ofWorld _
  deviceInfo _ := follows_ofWorld _
  mapPortal _ := follows_ofWorld _
  close _ := follows_ofWorld _
  dropPortal _ _ _ := rfl

namespace Gate

variable {α : Type} {platform : Platform World HostAddress} {machine : World → Simulator}
  {files : FileTree} {refusable : Operation → Prop}

theorem hosts_inFront (gate : Gate) (hosts : platform.Hosts machine files refusable) :
    (gate.inFront platform).Hosts machine files
      fun operation => refusable operation ∨ gate.denies operation = true where
  toFronts := gate.fronts_inFront hosts.toFronts
  containerGroup container := follows_guard gate id (hosts.containerGroup container)
  groupDevices group := follows_guard gate id (hosts.groupDevices group)
  openGroup group := follows_guard gate id (hosts.openGroup group)
  groupViable group := follows_guard gate id (hosts.groupViable group)
  setContainer group container := follows_guard gate id (hosts.setContainer group container)
  unsetContainer group := follows_guard gate id (hosts.unsetContainer group)
  openContainer := follows_guard gate id hosts.openContainer
  apiVersion container := follows_guard gate id (hosts.apiVersion container)
  hasType1Iommu container world := by
    change (gate.guard _ _).Yields world _
    unfold guard
    split
    · exact Act.Yields.throw rfl
    · refine Act.Yields.andThen (hosts.hasType1Iommu container world) (fun _ _ same => same) ?_
      exact fun _ _ same => Act.Yields.pure same
  setIommu container := follows_guard gate id (hosts.setIommu container)
  deviceFd group name := follows_guard gate id (hosts.deviceFd group name)
  deviceInfo device := follows_guard gate id (hosts.deviceInfo device)
  mapPortal device := follows_guard gate id (hosts.mapPortal device)
  close {kind} descriptor :=
    follows_guard gate (gate.denies_closing kind) (hosts.close descriptor)
  dropPortal := hosts.dropPortal

end Gate

namespace Act.Follows

variable {α : Type} {machine : World → Simulator} {refusable : Prop} {action : Act World α}
  {step : Simulator → Result α × Simulator}

theorem either (follows : action.Follows machine refusable step) {world : World}
    {done : α → Simulator → Prop} {failed : Simulator → Prop} (unchanged : failed (machine world))
    (known : Result.Either (fun value => done value (step (machine world)).2)
      (failed (step (machine world)).2) (step (machine world)).1) :
    action.Yields world fun result after =>
      result.Either (fun value => done value (machine after)) (failed (machine after)) := by
  refine (follows world).mono ?_
  rintro result after (same | ⟨-, ⟨failure, rfl⟩, same⟩)
  · rw [← same] at known
    exact known
  · change failed (machine after)
    rwa [same]

theorem asks {question : Simulator → Result α}
    (follows : action.Follows machine refusable fun sim => (question sim, sim)) (world : World) :
    action.Yields world fun _ after => machine after = machine world := by
  refine (follows world).mono ?_
  rintro result after (same | ⟨-, -, same⟩)
  · exact congrArg Prod.snd same
  · exact same

end Act.Follows

end Passthrough
