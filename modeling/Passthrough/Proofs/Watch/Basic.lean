import Passthrough.DmaSpace
import Passthrough.Proofs.Action.Yields
import Passthrough.Simulator.Platform

set_option autoImplicit false

/-! Watching a machine at work. A watched platform does what the platform does, and writes down
every call with its result and with the machine right before and right after it. What
was seen so far tells what was acquired and given back, and which mappings are windows
into devices. -/

namespace Passthrough

inductive Deed where
  | openFile (path : String) (result : Result FileFd)
  | mapFile (file : FileFd) (length : Nat) (result : Result HostAddress)
  | mapDevice (device : DeviceFd) (offset : UInt64) (length : Nat) (result : Result HostAddress)
  | mapDma (container : ContainerFd) (host : HostAddress) (device : DeviceAddress)
      (length : Nat) (result : Result Unit)
  | unmapDma (container : ContainerFd) (device : DeviceAddress) (length : Nat)
      (result : Result Unit)
  | unmap (address : HostAddress) (length : Nat) (result : Result Unit)
  | close (number : Int) (result : Result Unit)
  | request (call : Call) (result : Result call.Reply)
  /-- An operation that a load has no use for. -/
  | other

structure Observation where
  deed : Deed
  before : Simulator
  after : Simulator

/-- A machine, and what was seen of it, the last first. -/
structure Watch where
  machine : Simulator
  seen : List Observation

namespace Watch

variable {α : Type}

def act (deed : Result α → Deed) (action : Act Simulator α) : Act Watch α :=
  ExceptT.mk fun start =>
    let ended := action.outcome ⟨start.world.machine, start.log⟩
    let seen : Observation :=
      { deed := deed ended.1, before := start.world.machine, after := ended.2.world }
    (ended.1,
      { world := { machine := ended.2.world, seen := seen :: start.world.seen }
        log := ended.2.log })

def saw (watch : Watch) (deed : Deed) (after : Simulator) : Watch :=
  { machine := after
    seen := { deed := deed, before := watch.machine, after := after } :: watch.seen }

theorem yields_act {deed : Result α → Deed} {action : Act Simulator α} {watch : Watch}
    {after : Result α → Simulator → Prop} (yields : action.Yields watch.machine after) :
    (act deed action).Yields watch fun result reached =>
      ∃ machine, after result machine ∧ reached = watch.saw (deed result) machine :=
  fun log => ⟨_, yields log, rfl⟩

end Watch

def Platform.watched {Portal : Type} (platform : Platform Simulator Portal) :
    Platform Watch Portal :=
  { containerGroup := fun container =>
      Watch.act (fun _ => .other) (platform.containerGroup container)
    groupDevices := fun group => Watch.act (fun _ => .other) (platform.groupDevices group)
    openGroup := fun group => Watch.act (fun _ => .other) (platform.openGroup group)
    groupViable := fun group => Watch.act (fun _ => .other) (platform.groupViable group)
    setContainer := fun group container =>
      Watch.act (fun _ => .other) (platform.setContainer group container)
    unsetContainer := fun group => Watch.act (fun _ => .other) (platform.unsetContainer group)
    openContainer := Watch.act (fun _ => .other) platform.openContainer
    apiVersion := fun container => Watch.act (fun _ => .other) (platform.apiVersion container)
    hasType1Iommu := fun container =>
      Watch.act (fun _ => .other) (platform.hasType1Iommu container)
    setIommu := fun container => Watch.act (fun _ => .other) (platform.setIommu container)
    deviceFd := fun group name => Watch.act (fun _ => .other) (platform.deviceFd group name)
    deviceInfo := fun device => Watch.act (fun _ => .other) (platform.deviceInfo device)
    mapPortal := fun device => Watch.act (fun _ => .other) (platform.mapPortal device)
    mapDma := fun container host device length =>
      Watch.act (.mapDma container host device length)
        (platform.mapDma container host device length)
    unmapDma := fun container device length =>
      Watch.act (.unmapDma container device length) (platform.unmapDma container device length)
    openFile := fun path => Watch.act (.openFile path) (platform.openFile path)
    mapFile := fun file length => Watch.act (.mapFile file length) (platform.mapFile file length)
    mapDevice := fun device offset length =>
      Watch.act (.mapDevice device offset length) (platform.mapDevice device offset length)
    unmap := fun address length =>
      Watch.act (.unmap address length) (platform.unmap address length)
    close := fun descriptor =>
      Watch.act (.close descriptor.number) (platform.close descriptor)
    request := fun portal call => Watch.act (.request call) (platform.request portal call)
    window := platform.window
    dropPortal := fun portal start =>
      let ended := platform.dropPortal portal ⟨start.world.machine, start.log⟩
      let seen : Observation :=
        { deed := .other, before := start.world.machine, after := ended.2.world }
      ((),
        { world := { machine := ended.2.world, seen := seen :: start.world.seen }
          log := ended.2.log }) }

inductive Resource where
  | file (number : Int)
  | mapping (address : HostAddress) (length : Nat)
  | buffer (address : DeviceAddress) (length : Nat)
  deriving DecidableEq

inductive Effect where
  | acquire (resource : Resource)
  | release (resource : Resource)
  | firmware (call : Call)
  deriving DecidableEq

namespace Deed

def window? : Deed → Option HostAddress
  | .mapDevice _ _ _ (.ok page) => some page
  | _ => none

def pageHost? (container : ContainerFd) : Deed → Option HostAddress
  | .mapDma owner host device _ (.ok _) =>
      if owner = container ∧ device = DmaSpace.interruptAddress then some host else none
  | _ => none

/-- What a call did, windows into devices left aside. -/
def effect? (windows : List HostAddress) : Deed → Option Effect
  | .openFile _ (.ok file) => some (.acquire (.file file.number))
  | .mapFile _ length (.ok address) => some (.acquire (.mapping address length))
  | .mapDma _ _ device length (.ok _) =>
      if device = DmaSpace.interruptAddress then none
      else some (.acquire (.buffer device length))
  | .unmapDma _ device length (.ok _) =>
      if device = DmaSpace.interruptAddress then none
      else some (.release (.buffer device length))
  | .unmap address length (.ok _) =>
      if address ∈ windows then none else some (.release (.mapping address length))
  | .close number (.ok _) => some (.release (.file number))
  | .request call _ => some (.firmware call)
  | _ => none

section

variable (windows : List HostAddress) (container : ContainerFd) (host : HostAddress)
  {device : DeviceAddress} (length : Nat) (done : Unit)

theorem effect?_mapDma (apart : device ≠ DmaSpace.interruptAddress) :
    effect? windows (.mapDma container host device length (.ok done)) =
      some (.acquire (.buffer device length)) :=
  if_neg apart

theorem effect?_unmapDma (apart : device ≠ DmaSpace.interruptAddress) :
    effect? windows (.unmapDma container device length (.ok done)) =
      some (.release (.buffer device length)) :=
  if_neg apart

theorem effect?_unmap {windows : List HostAddress} {address : HostAddress}
    (apart : address ∉ windows) :
    effect? windows (.unmap address length (.ok done)) =
      some (.release (.mapping address length)) :=
  if_neg apart

theorem effect?_unmap_window {windows : List HostAddress} {address : HostAddress}
    (window : address ∈ windows) : effect? windows (.unmap address length (.ok done)) = none :=
  if_pos window

end

end Deed

def windows (seen : List Observation) : List HostAddress :=
  seen.filterMap fun observation => observation.deed.window?

/-- Where on the host the interrupt page lies that was registered last. -/
def pageHost? (container : ContainerFd) (seen : List Observation) : Option HostAddress :=
  seen.findSome? fun observation => observation.deed.pageHost? container

section

variable (watch : Watch) {deed : Deed} {container : ContainerFd}

theorem windows_saw (plain : deed.window? = none) (after : Simulator) :
    windows (watch.saw deed after).seen = windows watch.seen := by
  simp [windows, Watch.saw, plain]

theorem pageHost?_saw (unregistered : deed.pageHost? container = none) (after : Simulator) :
    pageHost? container (watch.saw deed after).seen = pageHost? container watch.seen := by
  simp [pageHost?, Watch.saw, unregistered]

end

theorem pageHost?_saw_mapDma (watch : Watch) (after : Simulator) (container : ContainerFd)
    (host : HostAddress) (length : Nat) (done : Unit) :
    pageHost? container (watch.saw
      (.mapDma container host DmaSpace.interruptAddress length (.ok done)) after).seen =
        some host := by
  simp [pageHost?, Watch.saw, Deed.pageHost?]

def effects : List Observation → List Effect
  | [] => []
  | observation :: earlier =>
      (observation.deed.effect? (windows earlier)).toList ++ effects earlier

end Passthrough
