import Passthrough.ObjectName
import Passthrough.Platform.Handle
import Passthrough.Tile.Call
import Std.Data.ExtTreeMap
import Std.Data.ExtTreeSet

set_option autoImplicit false

/-! A simulated machine: container objects and their groups, what is open,
attached, mapped and registered, a tile with its firmware sessions, the faults to
inject, and a record of what happened. Descriptor numbers and addresses are never
issued twice. -/

namespace Passthrough

/-- A step that can be made to fail. A number picks one call of its kind, counted from the
start of the simulation; the others fail as long as they are injected. -/
inductive Fault where
  | openGroup
  | groupStatus
  | setContainer
  | setIommu
  | deviceInfo
  | mapPortal
  | openFile (ordinal : Nat)
  | mapFile (ordinal : Nat)
  /-- Registering a buffer; the interrupt page is not counted. -/
  | mapDma (ordinal : Nat)
  | mapInterruptPage
  | firmwareOpen
  | firmwareClose
  | reset
  | load
  | run
  | attributes
  | serviceLayerVersion
  | state
  | timeOfDay
  | setTimeOfDay
  deriving DecidableEq

inductive Event where
  | openGroup (group : GroupId)
  | openContainer
  | openDevice (name : String)
  | openFile (path : String)
  | mapFile (length : Nat)
  | mapDevice (offset : UInt64) (length : Nat)
  | mapDma (address : DeviceAddress) (length : Nat)
  | unmapDma (address : DeviceAddress) (length : Nat)
  | unmap (length : Nat)
  | close (kind : DescriptorKind)
  | firmware (call : Call)
  deriving DecidableEq

structure Tile where
  attributes : TileAttributes
  serviceLayer : ServiceLayerVersion
  state : TileState
  timeOfDay : UInt64
  deriving DecidableEq

def Tile.fresh : Tile :=
  { attributes := { id := 0, major := 1, minor := 2 }
    serviceLayer := { major := 10, minor := 1, revision := 0 }
    state := .resetDone
    timeOfDay := 0 }

structure Holdings where
  descriptors : Nat
  mappings : Nat
  registrations : Nat
  sessions : Nat
  deriving DecidableEq

def Holdings.isEmpty (holdings : Holdings) : Bool :=
  holdings.descriptors == 0 && holdings.mappings == 0 && holdings.registrations == 0 &&
    holdings.sessions == 0

namespace Simulator

/-- What an open descriptor stands for. -/
inductive OpenObject where
  | group (group : GroupId)
  /-- A container, and whether its IOMMU mode is selected. -/
  | container (translating : Bool)
  | device (name : String)
  | file
  deriving DecidableEq

def OpenObject.kind : OpenObject → DescriptorKind
  | .group _ => .group
  | .container _ => .container
  | .device _ => .device
  | .file => .file

structure GroupObject where
  container : String
  devices : List String
  viable : Bool
  deriving DecidableEq

abbrev registrationOrder : Int × Nat → Int × Nat → Ordering :=
  compareLex (compareOn Prod.fst) (compareOn Prod.snd)

instance : Std.TransCmp registrationOrder :=
  Std.instTransCmpCompareLex

end Simulator

/-- The state of a simulated machine. -/
structure Simulator where
  containers : Std.ExtTreeMap String GroupId compare
  groups : Std.ExtTreeMap UInt32 Simulator.GroupObject compare
  lastDescriptor : Int
  descriptors : Std.ExtTreeMap Int Simulator.OpenObject compare
  attachments : Std.ExtTreeMap Int Int compare
  /-- Addresses are words of 64 bits, and this count is meant to stay among them. -/
  nextAddress : Nat
  mappings : Std.ExtTreeMap Nat Nat compare
  registrations : Std.ExtTreeMap (Int × Nat) Nat Simulator.registrationOrder
  lastToken : UInt16
  sessions : Std.ExtTreeSet UInt16 compare
  tile : Tile
  faults : List Fault
  filesOpened : Nat
  filesMapped : Nat
  buffersRegistered : Nat
  apiVersion : Int
  portals : Std.ExtTreeMap Nat Command compare
  /-- What happened, the last first. -/
  events : List Event

namespace Simulator

def firstAddress : Nat := 0x7f0000000000

/-- The last descriptor number that is taken before anything is opened. -/
def reservedDescriptors : Int := 2

def empty (tile : Tile) : Simulator :=
  { containers := ∅
    groups := ∅
    lastDescriptor := reservedDescriptors
    descriptors := ∅
    attachments := ∅
    nextAddress := firstAddress
    mappings := ∅
    registrations := ∅
    lastToken := 0
    sessions := ∅
    tile := tile
    faults := []
    filesOpened := 0
    filesMapped := 0
    buffersRegistered := 0
    apiVersion := 0
    portals := ∅
    events := [] }

/-- Adds a container object with its group. A later one of the same name, or of the same group,
takes the place of an earlier one. -/
def withContainer (sim : Simulator) (name : String) (group : GroupId) (devices : List String) :
    Simulator :=
  { sim with
    containers := sim.containers.insert name group
    groups := sim.groups.insert group.number
      { container := name, devices := devices, viable := true } }

def holdings (sim : Simulator) : Holdings :=
  { descriptors := sim.descriptors.size
    mappings := sim.mappings.size
    registrations := sim.registrations.size
    sessions := sim.sessions.size }

def history (sim : Simulator) : List Event :=
  sim.events.reverse

def firmwareCalls (sim : Simulator) : List Call :=
  sim.history.filterMap fun event =>
    match event with
    | .firmware call => some call
    | _ => none

def note (sim : Simulator) (event : Event) : Simulator :=
  { sim with events := event :: sim.events }

def forgetEvents (sim : Simulator) : Simulator :=
  { sim with events := [] }

def has (sim : Simulator) (fault : Fault) : Bool :=
  sim.faults.contains fault

def inject (sim : Simulator) (fault : Fault) : Simulator :=
  if sim.has fault then sim else { sim with faults := fault :: sim.faults }

def clearFaults (sim : Simulator) : Simulator :=
  { sim with faults := [] }

/-- Says whether a group can be used; unknown groups are left alone. -/
def setViable (sim : Simulator) (group : GroupId) (viable : Bool) : Simulator :=
  match sim.groups[group.number]? with
  | some object =>
      { sim with groups := sim.groups.insert group.number { object with viable := viable } }
  | none => sim

def setApiVersion (sim : Simulator) (version : Int) : Simulator :=
  { sim with apiVersion := version }

def issue (sim : Simulator) (object : OpenObject) : Int × Simulator :=
  let number := sim.lastDescriptor + 1
  (number,
    { sim with
      lastDescriptor := number
      descriptors := sim.descriptors.insert number object })

/-- The pages that a mapping takes, with one behind it that stays unmapped. -/
def mappedPages (length : Nat) : Nat :=
  (length + 4095) / 4096 + 1

def allocate (sim : Simulator) (length : Nat) : HostAddress × Simulator :=
  let address := sim.nextAddress
  (⟨address⟩,
    { sim with
      nextAddress := address + mappedPages length * 4096
      mappings := sim.mappings.insert address length })

end Simulator

end Passthrough
