import Passthrough.Simulator.Calls

set_option autoImplicit false

/-! What each operation of the simulated machine comes to, one equation an operation:
the conditions in the order in which they are checked, each with the refusal it
leads to, and the machine that the operation leaves when nothing stands against it. -/

namespace Passthrough.Simulator

open Files (FileTree)

variable {α : Type}

theorem commit_require (sim : Simulator) (condition : Bool) (operation : String) (errno : Errno)
    (next : Unit → Result (α × Simulator)) :
    sim.commit (require condition operation errno >>= next) =
      if condition then sim.commit (next ()) else (.error (refusal operation errno), sim) := by
  unfold require
  split <;> rfl

theorem commit_unlessFault (sim : Simulator) (fault : Fault) (operation : String)
    (next : Unit → Result (α × Simulator)) :
    sim.commit (sim.unlessFault fault operation >>= next) =
      if sim.has fault then (.error (refusal operation .inputOutput), sim)
      else sim.commit (next ()) := by
  rw [unlessFault, commit_require]
  cases sim.has fault <;> rfl

theorem commit_object (sim : Simulator) (number : Int) (operation : String)
    (next : OpenObject → Result (α × Simulator)) :
    sim.commit (sim.object number operation >>= next) =
      match sim.descriptors[number]? with
      | some found => sim.commit (next found)
      | none => (.error (refusal operation .badDescriptor), sim) := by
  unfold object
  cases sim.descriptors[number]? <;> rfl

/-! ### Groups and containers -/

theorem commit_groupOf (sim : Simulator) (descriptor : GroupFd) (operation : String)
    (next : GroupId → Result (α × Simulator)) :
    sim.commit (sim.groupOf descriptor operation >>= next) =
      match sim.descriptors[descriptor.number]? with
      | some (.group group) => sim.commit (next group)
      | some _ => (.error (refusal operation .invalidArgument), sim)
      | none => (.error (refusal operation .badDescriptor), sim) := by
  unfold groupOf object
  cases sim.descriptors[descriptor.number]? with
  | none => rfl
  | some found => cases found <;> rfl

theorem openGroup_eq (sim : Simulator) (group : GroupId) :
    sim.openGroup group =
      if sim.has .openGroup then (.error (refusal "open VFIO group" .inputOutput), sim)
      else if sim.groups.contains group.number then
        if sim.isOpenGroup group then (.error (refusal "open VFIO group" .busy), sim)
        else (.ok ⟨sim.lastDescriptor + 1⟩, ((sim.note (.openGroup group)).issue (.group group)).2)
      else (.error (refusal "open VFIO group" .noEntry), sim) := by
  apply (commit_unlessFault sim _ _ _).trans
  refine ite_congr rfl (fun _ => rfl) fun _ => (commit_require sim _ _ _ _).trans ?_
  refine ite_congr rfl (fun _ => (commit_require sim _ _ _ _).trans ?_) fun _ => rfl
  cases sim.isOpenGroup group <;> rfl

theorem setContainer_eq (sim : Simulator) (group : GroupFd) (container : ContainerFd) :
    sim.setContainer group container =
      if sim.has .setContainer then
        (.error (refusal "VFIO_GROUP_SET_CONTAINER" .inputOutput), sim)
      else match sim.descriptors[group.number]?, sim.descriptors[container.number]? with
        | some (.group _), some (.container _) =>
            if sim.attachments.contains group.number then
              (.error (refusal "VFIO_GROUP_SET_CONTAINER" .busy), sim)
            else
              (.ok (),
                { sim with attachments := sim.attachments.insert group.number container.number })
        | some (.group _), none =>
            (.error (refusal "VFIO_GROUP_SET_CONTAINER" .badDescriptor), sim)
        | none, _ => (.error (refusal "VFIO_GROUP_SET_CONTAINER" .badDescriptor), sim)
        | _, _ => (.error (refusal "VFIO_GROUP_SET_CONTAINER" .invalidArgument), sim) := by
  apply (commit_unlessFault sim _ _ _).trans
  refine ite_congr rfl (fun _ => rfl) fun _ => (commit_groupOf sim _ _ _).trans ?_
  cases sim.descriptors[group.number]? with
  | none => rfl
  | some opened =>
      cases opened with
      | group id =>
          unfold requireContainer object
          cases sim.descriptors[container.number]? with
          | none => rfl
          | some found =>
              cases found with
              | container translating =>
                  apply (commit_require sim _ _ _ _).trans
                  cases sim.attachments.contains group.number <;> rfl
              | _ => rfl
      | _ => rfl

theorem unsetContainer_eq (sim : Simulator) (group : GroupFd) :
    sim.unsetContainer group =
      if sim.attachments.contains group.number then
        (.ok (), { sim with attachments := sim.attachments.erase group.number })
      else (.error (refusal "VFIO_GROUP_UNSET_CONTAINER" .invalidArgument), sim) :=
  commit_require sim _ _ _ _

theorem setIommu_eq (sim : Simulator) (container : ContainerFd) :
    sim.setIommu container =
      if sim.has .setIommu then (.error (refusal "VFIO_SET_IOMMU" .inputOutput), sim)
      else if sim.isAttached container then
        match sim.descriptors[container.number]? with
        | some (.container _) =>
            (.ok (), { sim with
              descriptors := sim.descriptors.insert container.number (.container true) })
        | _ => (.error (refusal "VFIO_SET_IOMMU" .badDescriptor), sim)
      else (.error (refusal "VFIO_SET_IOMMU" .invalidArgument), sim) := by
  apply (commit_unlessFault sim _ _ _).trans
  refine ite_congr rfl (fun _ => rfl) fun _ => (commit_require sim _ _ _ _).trans ?_
  refine ite_congr rfl (fun _ => ?_) fun _ => rfl
  cases sim.descriptors[container.number]? with
  | none => rfl
  | some found => cases found <;> rfl

/-! ### Devices -/

def lists (sim : Simulator) (group : GroupId) (name : String) : Bool :=
  match sim.groups[group.number]? with
  | some members => (members.container :: members.devices).contains name
  | none => false

theorem deviceFd_eq (sim : Simulator) (group : GroupFd) (name : String) :
    sim.deviceFd group name =
      match sim.descriptors[group.number]? with
      | some (.group found) =>
          if sim.lists found name then
            (.ok ⟨sim.lastDescriptor + 1⟩,
              ((sim.note (.openDevice name)).issue (.device name)).2)
          else (.error (refusal "VFIO_GROUP_GET_DEVICE_FD" .noDevice), sim)
      | some _ => (.error (refusal "VFIO_GROUP_GET_DEVICE_FD" .invalidArgument), sim)
      | none => (.error (refusal "VFIO_GROUP_GET_DEVICE_FD" .badDescriptor), sim) := by
  apply (commit_groupOf sim _ _ _).trans
  cases sim.descriptors[group.number]? with
  | none => rfl
  | some opened =>
      cases opened with
      | group found => exact commit_require sim _ _ _ _
      | _ => rfl

theorem mapPortal_eq (sim : Simulator) (device : DeviceFd) :
    sim.mapPortal device =
      if sim.has .mapPortal then (.error (refusal "mmap MC portal" .inputOutput), sim)
      else match sim.descriptors[device.number]? with
        | some (.device name) =>
            if ObjectName.hasClass ObjectName.portalClass name then
              (.ok ⟨sim.nextAddress⟩,
                { ((sim.note (.mapDevice 0 portalLength)).allocate portalLength).2 with
                  portals := sim.portals.insert sim.nextAddress Command.blank })
            else (.error (refusal "mmap MC portal" .invalidArgument), sim)
        | some _ => (.error (refusal "mmap MC portal" .invalidArgument), sim)
        | none => (.error (refusal "mmap MC portal" .badDescriptor), sim) := by
  apply (commit_unlessFault sim _ _ _).trans
  refine ite_congr rfl (fun _ => rfl) fun _ => (commit_object sim _ _ _).trans ?_
  cases sim.descriptors[device.number]? with
  | none => rfl
  | some found =>
      cases found with
      | device name => exact commit_require sim _ _ _ _
      | _ => rfl

/-! ### Files and host mappings -/

def countOpen (sim : Simulator) : Simulator :=
  { sim with filesOpened := sim.filesOpened + 1 }

def countMap (sim : Simulator) : Simulator :=
  { sim with filesMapped := sim.filesMapped + 1 }

theorem openFile_eq (files : FileTree) (sim : Simulator) (path : String) :
    openFile files sim path =
      if sim.has (.openFile (sim.filesOpened + 1)) then
        (.error (refusal "open file" .inputOutput), sim.countOpen)
      else if isRegular files path then
        (.ok ⟨sim.lastDescriptor + 1⟩, ((sim.countOpen.note (.openFile path)).issue .file).2)
      else (.error (refusal "open file" .noEntry), sim.countOpen) := by
  apply (commit_unlessFault sim.countOpen _ _ _).trans
  rw [commit_require]
  rfl

theorem mapFile_eq (sim : Simulator) (file : FileFd) (length : Nat) :
    sim.mapFile file length =
      if sim.has (.mapFile (sim.filesMapped + 1)) then
        (.error (refusal "mmap file" .inputOutput), sim.countMap)
      else match sim.descriptors[file.number]? with
        | some .file =>
            (.ok ⟨sim.nextAddress⟩, ((sim.countMap.note (.mapFile length)).allocate length).2)
        | some _ => (.error (refusal "mmap file" .accessDenied), sim.countMap)
        | none => (.error (refusal "mmap file" .badDescriptor), sim.countMap) := by
  apply (commit_unlessFault sim.countMap _ _ _).trans
  refine ite_congr rfl (fun _ => rfl) fun _ => (commit_object sim.countMap _ _ _).trans ?_
  change (match sim.descriptors[file.number]? with | some found => _ | none => _) = _
  cases sim.descriptors[file.number]? with
  | none => rfl
  | some found => cases found <;> rfl

theorem mapDevice_eq (sim : Simulator) (device : DeviceFd) (offset : UInt64) (length : Nat) :
    sim.mapDevice device offset length =
      match sim.descriptors[device.number]? with
      | some (.device _) =>
          (.ok ⟨sim.nextAddress⟩, ((sim.note (.mapDevice offset length)).allocate length).2)
      | some _ => (.error (refusal "mmap device" .invalidArgument), sim)
      | none => (.error (refusal "mmap device" .badDescriptor), sim) := by
  apply (commit_object sim _ _ _).trans
  cases sim.descriptors[device.number]? with
  | none => rfl
  | some found => cases found <;> rfl

theorem unmap_eq (sim : Simulator) (address : HostAddress) (length : Nat) :
    sim.unmap address length =
      if sim.mappings[address.value]? = some length then
        (.ok (), { sim.note (.unmap length) with mappings := sim.mappings.erase address.value })
      else (.error (refusal "munmap" .invalidArgument), sim.note (.unmap length)) := by
  apply (commit_require (sim.note (.unmap length)) _ _ _ _).trans
  simp only [beq_iff_eq]
  rfl

theorem close_eq (sim : Simulator) (number : Int) :
    sim.close number =
      match sim.descriptors[number]? with
      | some found =>
          (.ok (), ({ sim with descriptors := sim.descriptors.erase number }.forgetObject number
            found).note (.close found.kind))
      | none => (.error (refusal "close" .badDescriptor), sim) := by
  apply (commit_object sim _ _ _).trans
  cases sim.descriptors[number]? <;> rfl

/-! ### Registrations -/

theorem countRegistration_shape (sim : Simulator) (device : DeviceAddress) :
    ∃ buffers, sim.countRegistration device = { sim with buffersRegistered := buffers } := by
  unfold countRegistration
  split
  · exact ⟨sim.buffersRegistered, rfl⟩
  · exact ⟨sim.buffersRegistered + 1, rfl⟩

theorem mapDma_eq (sim : Simulator) (container : ContainerFd) (host : HostAddress)
    (device : DeviceAddress) (length : Nat) :
    sim.mapDma container host device length =
      let counted := sim.countRegistration device
      if counted.has (counted.registrationFault device) then
        (.error (refusal "VFIO_IOMMU_MAP_DMA" .inputOutput), counted)
      else match counted.descriptors[container.number]? with
        | none => (.error (refusal "VFIO_IOMMU_MAP_DMA" .badDescriptor), counted)
        | some found =>
            if found = .container true then
              if counted.isMapped host length then
                if counted.registrations.contains (container.number, device.value) then
                  (.error (refusal "VFIO_IOMMU_MAP_DMA" .alreadyExists), counted)
                else
                  (.ok (), { counted with
                    registrations :=
                      counted.registrations.insert (container.number, device.value) length }.note
                        (.mapDma device length))
              else (.error (refusal "VFIO_IOMMU_MAP_DMA" .badAddress), counted)
            else (.error (refusal "VFIO_IOMMU_MAP_DMA" .invalidArgument), counted) := by
  apply (commit_unlessFault (sim.countRegistration device) _ _ _).trans
  refine ite_congr rfl (fun _ => rfl) fun _ => ?_
  rw [commit_object]
  cases (sim.countRegistration device).descriptors[container.number]? with
  | none => rfl
  | some found =>
      change commit _ (_ >>= _) = _
      rw [commit_require]
      simp only [beq_iff_eq]
      refine ite_congr rfl (fun _ => ?_) fun _ => rfl
      rw [commit_require]
      refine ite_congr rfl (fun _ => ?_) fun _ => rfl
      rw [commit_require]
      cases (sim.countRegistration device).registrations.contains
        (container.number, device.value) <;> rfl

def countBuffer (sim : Simulator) : Simulator :=
  { sim with buffersRegistered := sim.buffersRegistered + 1 }

theorem mapDma_buffer (sim : Simulator) (container : ContainerFd) (host : HostAddress)
    (device : DeviceAddress) (length : Nat) (apart : device.value ≠ Staging.interruptAddress) :
    sim.mapDma container host device length =
      if sim.has (.mapDma (sim.buffersRegistered + 1)) then
        (.error (refusal "VFIO_IOMMU_MAP_DMA" .inputOutput), sim.countBuffer)
      else match sim.descriptors[container.number]? with
        | none => (.error (refusal "VFIO_IOMMU_MAP_DMA" .badDescriptor), sim.countBuffer)
        | some found =>
            if found = .container true then
              if sim.isMapped host length then
                if sim.registrations.contains (container.number, device.value) then
                  (.error (refusal "VFIO_IOMMU_MAP_DMA" .alreadyExists), sim.countBuffer)
                else
                  (.ok (), { sim.countBuffer with
                    registrations :=
                      sim.registrations.insert (container.number, device.value) length }.note
                        (.mapDma device length))
              else (.error (refusal "VFIO_IOMMU_MAP_DMA" .badAddress), sim.countBuffer)
            else (.error (refusal "VFIO_IOMMU_MAP_DMA" .invalidArgument), sim.countBuffer) := by
  have counted : sim.countRegistration device = sim.countBuffer := if_neg apart
  have fault : sim.countBuffer.registrationFault device =
    .mapDma (sim.buffersRegistered + 1) := if_neg apart
  rw [mapDma_eq]
  dsimp only
  rw [counted, fault]
  rfl

theorem unmapDma_eq (sim : Simulator) (container : ContainerFd) (device : DeviceAddress)
    (length : Nat) :
    sim.unmapDma container device length =
      if sim.registrations.contains (container.number, device.value) then
        (.ok (), { sim.note (.unmapDma device length) with
          registrations := sim.registrations.erase (container.number, device.value) })
      else (.error (refusal "VFIO_IOMMU_UNMAP_DMA" .invalidArgument),
        sim.note (.unmapDma device length)) :=
  commit_require (sim.note (.unmapDma device length)) _ _ _ _

end Passthrough.Simulator
