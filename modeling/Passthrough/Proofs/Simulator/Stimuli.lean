import Passthrough.Proofs.Simulator.Orderly
import Passthrough.Proofs.Simulator.PortalService

set_option autoImplicit false

/-! Everything that can be done to a machine once it is built, with arguments that need not
make sense, and what is answered. A run is a sequence of such stimuli. Each of them is an
operation with its turn of the tables, a mapping of memory, or work for the firmware. -/

namespace Passthrough.Simulator

open Files (FileTree)

def built (tile : Tile) (containers : List (String × GroupId × List String)) : Simulator :=
  containers.foldl (fun sim (name, group, devices) => sim.withContainer name group devices)
    (empty tile)

theorem built_of_withContainer (property : Simulator → Prop) {tile : Tile}
    (bare : property (empty tile))
    (grows : ∀ sim name group devices, property sim →
      property (sim.withContainer name group devices))
    (containers : List (String × GroupId × List String)) : property (built tile containers) := by
  unfold built
  apply List.foldlRecOn containers
  · exact bare
  · exact fun sim held entry _ => grows sim entry.1 entry.2.1 entry.2.2 held

inductive Stimulus where
  | inject (fault : Fault)
  | clearFaults
  | setViable (group : GroupId) (viable : Bool)
  | setApiVersion (version : Int)
  | forgetEvents
  /-- Anonymous memory, mapped at the next address. -/
  | takeBuffer (length : Nat)
  | containerGroup (container : ContainerName)
  | groupDevices (group : GroupId)
  | openGroup (group : GroupId)
  | groupViable (group : GroupFd)
  | setContainer (group : GroupFd) (container : ContainerFd)
  | unsetContainer (group : GroupFd)
  | openContainer
  | apiVersion (container : ContainerFd)
  | hasType1Iommu (container : ContainerFd)
  | setIommu (container : ContainerFd)
  | deviceFd (group : GroupFd) (name : String)
  | deviceInfo (device : DeviceFd)
  | mapPortal (device : DeviceFd)
  | mapDma (container : ContainerFd) (host : HostAddress) (device : DeviceAddress) (length : Nat)
  | unmapDma (container : ContainerFd) (device : DeviceAddress) (length : Nat)
  | openFile (files : FileTree) (path : String)
  | mapFile (file : FileFd) (length : Nat)
  | mapDevice (device : DeviceFd) (offset : UInt64) (length : Nat)
  | unmap (address : HostAddress) (length : Nat)
  | close (number : Int)
  /-- One parameter word of a portal is written. -/
  | prepare (portal : HostAddress) (index : Fin Command.parameterCount) (value : UInt64)
  /-- The header of a portal is written, and what the portal then shows is executed. -/
  | submit (portal : HostAddress) (header : UInt64)
  /-- A whole command is sent through a portal, and its response is awaited. -/
  | send (portal : HostAddress) (operation : String) (command : Command)
  | dropPortal (portal : HostAddress)

inductive Answer where
  | done
  | flag (value : Bool)
  | version (number : Int)
  | group (group : GroupId)
  | names (names : List String)
  | metadata (metadata : DeviceMetadata)
  | descriptor (number : Int)
  | address (address : HostAddress)
  | response (response : Command)

def answering {α : Type} (form : α → Answer) (outcome : Result α × Simulator) :
    Result Answer × Simulator :=
  (outcome.1.map form, outcome.2)

def react (sim : Simulator) : Stimulus → Result Answer × Simulator
  | .inject fault => (.ok .done, sim.inject fault)
  | .clearFaults => (.ok .done, sim.clearFaults)
  | .setViable group viable => (.ok .done, sim.setViable group viable)
  | .setApiVersion version => (.ok .done, sim.setApiVersion version)
  | .forgetEvents => (.ok .done, sim.forgetEvents)
  | .takeBuffer length => (.ok (.address (sim.allocate length).1), (sim.allocate length).2)
  | .containerGroup container => answering .group (sim.containerGroup container, sim)
  | .groupDevices group => answering .names (sim.groupDevices group, sim)
  | .openGroup group => answering (fun opened => .descriptor opened.number) (sim.openGroup group)
  | .groupViable group => answering .flag (sim.groupViable group, sim)
  | .setContainer group container =>
      answering (fun _ => .done) (sim.setContainer group container)
  | .unsetContainer group => answering (fun _ => .done) (sim.unsetContainer group)
  | .openContainer => answering (fun opened => .descriptor opened.number) sim.openContainer
  | .apiVersion container => answering .version (sim.reportedApiVersion container, sim)
  | .hasType1Iommu container => answering .flag (sim.hasType1Iommu container, sim)
  | .setIommu container => answering (fun _ => .done) (sim.setIommu container)
  | .deviceFd group name =>
      answering (fun opened => .descriptor opened.number) (sim.deviceFd group name)
  | .deviceInfo device => answering .metadata (sim.deviceInfo device, sim)
  | .mapPortal device => answering .address (sim.mapPortal device)
  | .mapDma container host device length =>
      answering (fun _ => .done) (sim.mapDma container host device length)
  | .unmapDma container device length =>
      answering (fun _ => .done) (sim.unmapDma container device length)
  | .openFile files path =>
      answering (fun opened => .descriptor opened.number) (openFile files sim path)
  | .mapFile file length => answering .address (sim.mapFile file length)
  | .mapDevice device offset length => answering .address (sim.mapDevice device offset length)
  | .unmap address length => answering (fun _ => .done) (sim.unmap address length)
  | .close number => answering (fun _ => .done) (sim.close number)
  | .prepare portal index value =>
      (.ok .done, writePortal portal (Command.parameterOffset index) value sim)
  | .submit portal header => (.ok .done, writePortal portal 0 header sim)
  | .send portal operation command =>
      answering .response
        ((registers portal).send Portal.PollConfig.standard operation command sim)
  | .dropPortal portal => (.ok .done, sim.dropPortal portal)

/-- What is answered to a run of stimuli, in order, and the machine after it. -/
def run (sim : Simulator) : List Stimulus → List (Result Answer) × Simulator
  | [] => ([], sim)
  | stimulus :: rest =>
      let (answer, after) := sim.react stimulus
      let (answers, ended) := after.run rest
      (answer :: answers, ended)

variable {sim after : Simulator}

inductive Passage (sim after : Simulator) : Prop where
  | stays (same : after = sim)
  | steps (next : Step sim after)
  | serves (change : FirmwareChange sim after)

theorem react_send (sim : Simulator) (portal : HostAddress) (operation : String)
    (command : Command) :
    ∃ portals, sim.react (.send portal operation command) =
      ((Portal.verdict operation (sim.execute command).1).map .response,
        (sim.execute command).2.withPortals portals) := by
  obtain ⟨⟨portals, sent, -⟩, -⟩ :=
    send_command portal Portal.PollConfig.standard (by decide) operation command sim
  refine ⟨portals, ?_⟩
  simp only [react, answering, sent]

theorem react_passage (sim : Simulator) (stimulus : Stimulus) :
    Passage sim (sim.react stimulus).2 := by
  cases stimulus with
  | inject fault => exact .steps (.inject fault)
  | clearFaults => exact .steps .clearFaults
  | setViable group viable => exact .steps (.setViable group viable)
  | setApiVersion version => exact .steps (.setApiVersion version)
  | forgetEvents => exact .steps .forgetEvents
  | takeBuffer length => exact .steps (.takeBuffer length)
  | openGroup group => exact .steps (.openGroup group)
  | setContainer group container => exact .steps (.setContainer group container)
  | unsetContainer group => exact .steps (.unsetContainer group)
  | openContainer => exact .steps .openContainer
  | setIommu container => exact .steps (.setIommu container)
  | deviceFd group name => exact .steps (.deviceFd group name)
  | mapPortal device => exact .steps (.mapPortal device)
  | mapDma container host device length => exact .steps (.mapDma container host device length)
  | unmapDma container device length => exact .steps (.unmapDma container device length)
  | openFile files path => exact .steps (.openFile files path)
  | mapFile file length => exact .steps (.mapFile file length)
  | mapDevice device offset length => exact .steps (.mapDevice device offset length)
  | unmap address length => exact .steps (.unmap address length)
  | close number => exact .steps (.close number)
  | prepare portal index value =>
      exact .steps (.writePortal portal (Command.parameterOffset index) value)
  | submit portal header => exact .steps (.writePortal portal 0 header)
  | send portal operation command =>
      obtain ⟨portals, sent⟩ := react_send sim portal operation command
      rw [sent]
      exact .serves ((sim.execute_change command).withPortals portals)
  | dropPortal portal => exact .steps (.dropPortal portal)
  | containerGroup => exact .stays rfl
  | groupDevices => exact .stays rfl
  | groupViable => exact .stays rfl
  | apiVersion => exact .stays rfl
  | hasType1Iommu => exact .stays rfl
  | deviceInfo => exact .stays rfl

theorem Passage.change (passage : Passage sim after) : Change sim after := by
  cases passage with
  | stays same =>
      rw [same]
      exact .still rfl
  | steps next => exact next.change
  | serves served => exact .firmware served

end Passthrough.Simulator
