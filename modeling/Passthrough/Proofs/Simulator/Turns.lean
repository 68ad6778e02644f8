import Passthrough.Proofs.Simulator.CallCases
import Passthrough.Proofs.Simulator.FirmwareCases

set_option autoImplicit false

/-! What an operation on the simulated machine can do to what is open, attached, registered
and mapped. A turn is one of a few changes of the first three tables, each with what must
hold beforehand; every operation is one of them, and so a property of the tables is kept by
all operations once it is kept by each turn. The same is said of the mappings, and of the
numbers of what is open. -/

namespace Passthrough.Simulator

open Files (FileTree)

inductive Turn (sim after : Simulator) : Prop where
  | aside (descriptors : after.descriptors = sim.descriptors)
      (attachments : after.attachments = sim.attachments)
      (registrations : after.registrations = sim.registrations)
  /-- A group is opened only while no descriptor stands for it. -/
  | opens (object : OpenObject)
      (unopened : ∀ group, object = .group group →
        ∀ number : Int, sim.descriptors[number]? ≠ some (.group group))
      (descriptors : after.descriptors = sim.descriptors.insert (sim.lastDescriptor + 1) object)
      (attachments : after.attachments = sim.attachments)
      (registrations : after.registrations = sim.registrations)
  | attaches (group container : Int) {id : GroupId}
      (opened : sim.descriptors[group]? = some (.group id))
      (descriptors : after.descriptors = sim.descriptors)
      (attachments : after.attachments = sim.attachments.insert group container)
      (registrations : after.registrations = sim.registrations)
  | detaches (group : Int)
      (descriptors : after.descriptors = sim.descriptors)
      (attachments : after.attachments = sim.attachments.erase group)
      (registrations : after.registrations = sim.registrations)
  | selects (container : Int) {translating : Bool}
      (opened : sim.descriptors[container]? = some (.container translating))
      (descriptors : after.descriptors = sim.descriptors.insert container (.container true))
      (attachments : after.attachments = sim.attachments)
      (registrations : after.registrations = sim.registrations)
  | registers (container : Int) (address length : Nat)
      (opened : sim.descriptors[container]? = some (.container true))
      (descriptors : after.descriptors = sim.descriptors)
      (attachments : after.attachments = sim.attachments)
      (registrations : after.registrations =
        sim.registrations.insert (container, address) length)
  | unregisters (key : Int × Nat)
      (descriptors : after.descriptors = sim.descriptors)
      (attachments : after.attachments = sim.attachments)
      (registrations : after.registrations = sim.registrations.erase key)
  | closes (number : Int) {object : OpenObject}
      (opened : sim.descriptors[number]? = some object)
      (descriptors : after.descriptors = sim.descriptors.erase number)
      (attachments : after.attachments = (sim.forgetObject number object).attachments)
      (registrations : after.registrations = (sim.forgetObject number object).registrations)

/-- What an operation does to the mappings: nothing, one more at the next address, or one less. -/
inductive Placement (sim after : Simulator) : Prop where
  | aside (address : after.nextAddress = sim.nextAddress)
      (mappings : after.mappings = sim.mappings)
  | allocates (length : Nat)
      (address : after.nextAddress = sim.nextAddress + mappedPages length * 4096)
      (mappings : after.mappings = sim.mappings.insert sim.nextAddress length)
  | removes (number : Nat) (address : after.nextAddress = sim.nextAddress)
      (mappings : after.mappings = sim.mappings.erase number)

/-- What an operation does to the descriptors, by number: the next one is issued, one that is
there is replaced or closed, or none of this. -/
inductive Issuance (sim after : Simulator) : Prop where
  | aside (last : after.lastDescriptor = sim.lastDescriptor)
      (descriptors : after.descriptors = sim.descriptors)
  | issues (object : OpenObject) (last : after.lastDescriptor = sim.lastDescriptor + 1)
      (descriptors : after.descriptors = sim.descriptors.insert (sim.lastDescriptor + 1) object)
  | replaces (number : Int) {old : OpenObject} (known : sim.descriptors[number]? = some old)
      (object : OpenObject) (last : after.lastDescriptor = sim.lastDescriptor)
      (descriptors : after.descriptors = sim.descriptors.insert number object)
  | closes (number : Int) (last : after.lastDescriptor = sim.lastDescriptor)
      (descriptors : after.descriptors = sim.descriptors.erase number)

structure Change (sim after : Simulator) : Prop where
  turn : Turn sim after
  placement : Placement sim after
  issuance : Issuance sim after

variable {sim after : Simulator}

theorem not_open_of_isOpenGroup {group : GroupId} (closed : ¬ sim.isOpenGroup group = true)
    (number : Int) : sim.descriptors[number]? ≠ some (.group group) := by
  intro found
  refine closed (List.any_eq_true.mpr ⟨(number, .group group), ?_, beq_self_eq_true _⟩)
  exact Std.ExtTreeMap.mem_toList_iff_getElem?_eq_some.mpr found

theorem Placement.nextAddress_le (placement : Placement sim after) :
    sim.nextAddress ≤ after.nextAddress := by
  cases placement with
  | aside address => exact Nat.le_of_eq address.symm
  | allocates length address =>
      rw [address]
      exact Nat.le_add_right _ _
  | removes number address => exact Nat.le_of_eq address.symm

namespace Change

theorem still (same : after = { sim with
    containers := after.containers
    groups := after.groups
    lastToken := after.lastToken
    sessions := after.sessions
    tile := after.tile
    faults := after.faults
    filesOpened := after.filesOpened
    filesMapped := after.filesMapped
    buffersRegistered := after.buffersRegistered
    apiVersion := after.apiVersion
    portals := after.portals
    events := after.events }) : Change sim after := by
  rw [same]
  exact ⟨.aside rfl rfl rfl, .aside rfl rfl, .aside rfl rfl⟩

theorem inject (fault : Fault) : Change sim (sim.inject fault) := by
  unfold Simulator.inject
  split <;> exact .still rfl

theorem setViable (group : GroupId) (viable : Bool) :
    Change sim (sim.setViable group viable) := by
  unfold Simulator.setViable
  split <;> exact .still rfl

/-! ### Groups, containers and devices -/

theorem openGroup (group : GroupId) : Change sim (sim.openGroup group).2 := by
  rw [openGroup_eq]
  repeat' split
  all_goals try exact .still rfl
  next closed =>
    refine ⟨.opens (.group group) ?_ rfl rfl rfl, .aside rfl rfl, .issues _ rfl rfl⟩
    rintro _ ⟨⟩
    exact not_open_of_isOpenGroup closed

theorem setContainer (group : GroupFd) (container : ContainerFd) :
    Change sim (sim.setContainer group container).2 := by
  rw [setContainer_eq]
  repeat' split
  all_goals try exact .still rfl
  next opened _ _ =>
    exact ⟨.attaches group.number container.number opened rfl rfl rfl, .aside rfl rfl,
      .aside rfl rfl⟩

theorem unsetContainer (group : GroupFd) : Change sim (sim.unsetContainer group).2 := by
  rw [unsetContainer_eq]
  split
  · exact ⟨.detaches group.number rfl rfl rfl, .aside rfl rfl, .aside rfl rfl⟩
  · exact .still rfl

theorem openContainer : Change sim sim.openContainer.2 :=
  ⟨.opens (.container false) nofun rfl rfl rfl, .aside rfl rfl, .issues _ rfl rfl⟩

theorem setIommu (container : ContainerFd) : Change sim (sim.setIommu container).2 := by
  rw [setIommu_eq]
  repeat' split
  all_goals try exact .still rfl
  next opened =>
    exact ⟨.selects container.number opened rfl rfl rfl, .aside rfl rfl,
      .replaces container.number opened _ rfl rfl⟩

theorem deviceFd (group : GroupFd) (name : String) :
    Change sim (sim.deviceFd group name).2 := by
  rw [deviceFd_eq]
  repeat' split
  all_goals try exact .still rfl
  exact ⟨.opens (.device name) nofun rfl rfl rfl, .aside rfl rfl, .issues _ rfl rfl⟩

theorem close (number : Int) : Change sim (sim.close number).2 := by
  rw [close_eq]
  split
  · next object opened =>
      refine ⟨.closes number opened ?_ ?_ ?_, .aside ?_ ?_, .closes number ?_ ?_⟩
      all_goals cases object <;> rfl
  · exact .still rfl

/-! ### Portals and registrations -/

theorem mapPortal (device : DeviceFd) : Change sim (sim.mapPortal device).2 := by
  rw [mapPortal_eq]
  repeat' split
  all_goals try exact .still rfl
  exact ⟨.aside rfl rfl rfl, .allocates portalLength rfl rfl, .aside rfl rfl⟩

theorem dropPortal (portal : HostAddress) : Change sim (sim.dropPortal portal) :=
  ⟨.aside rfl rfl rfl, .removes portal.value rfl rfl, .aside rfl rfl⟩

theorem firmware (served : FirmwareChange sim after) : Change sim after := by
  rw [served.same]
  exact .still rfl

theorem writePortal (portal : HostAddress) (offset : Nat) (value : UInt64) :
    Change sim (Simulator.writePortal portal offset value sim) := by
  unfold Simulator.writePortal
  dsimp only
  split
  · rw [(sim.execute_change _).same]
    exact .still rfl
  · exact .still rfl

theorem mapDma (container : ContainerFd) (host : HostAddress) (device : DeviceAddress)
    (length : Nat) : Change sim (sim.mapDma container host device length).2 := by
  obtain ⟨buffers, counted⟩ := countRegistration_shape sim device
  rw [mapDma_eq, counted]
  dsimp only
  repeat' split
  all_goals try exact .still rfl
  next found translating _ _ =>
    exact ⟨.registers container.number device.value length (translating ▸ found) rfl rfl rfl,
      .aside rfl rfl, .aside rfl rfl⟩

theorem unmapDma (container : ContainerFd) (device : DeviceAddress) (length : Nat) :
    Change sim (sim.unmapDma container device length).2 := by
  rw [unmapDma_eq]
  split
  · exact ⟨.unregisters (container.number, device.value) rfl rfl rfl, .aside rfl rfl,
      .aside rfl rfl⟩
  · exact .still rfl

/-! ### Files and host mappings -/

theorem openFile (files : FileTree) (path : String) :
    Change sim (Simulator.openFile files sim path).2 := by
  rw [openFile_eq]
  repeat' split
  all_goals try exact .still rfl
  exact ⟨.opens .file nofun rfl rfl rfl, .aside rfl rfl, .issues _ rfl rfl⟩

theorem mapFile (file : FileFd) (length : Nat) : Change sim (sim.mapFile file length).2 := by
  rw [mapFile_eq]
  repeat' split
  all_goals try exact .still rfl
  exact ⟨.aside rfl rfl rfl, .allocates length rfl rfl, .aside rfl rfl⟩

theorem mapDevice (device : DeviceFd) (offset : UInt64) (length : Nat) :
    Change sim (sim.mapDevice device offset length).2 := by
  rw [mapDevice_eq]
  repeat' split
  all_goals try exact .still rfl
  exact ⟨.aside rfl rfl rfl, .allocates length rfl rfl, .aside rfl rfl⟩

theorem allocate (length : Nat) : Change sim (sim.allocate length).2 :=
  ⟨.aside rfl rfl rfl, .allocates length rfl rfl, .aside rfl rfl⟩

theorem unmap (address : HostAddress) (length : Nat) :
    Change sim (sim.unmap address length).2 := by
  rw [unmap_eq]
  split
  · exact ⟨.aside rfl rfl rfl, .removes address.value rfl rfl, .aside rfl rfl⟩
  · exact .still rfl

end Change

end Passthrough.Simulator
