import Passthrough.Proofs.Depot.Carries

set_option autoImplicit false

/-! Several device-visible spaces over one machine, each with a container of its own. Buffers
are registered in them and taken away again in any order, faults come and go, and others
use the machine as they like, as long as they let these containers be. -/

namespace Passthrough

open Files (FileTree)
open Simulator (Step)

/-- A space, with the buffers that were registered in it and not taken away again. -/
structure Bay where
  space : DmaSpace
  buffers : List Registration

namespace Bay

def container (bay : Bay) : Int :=
  bay.space.container.number

def bufferRegistrations (bay : Bay) : List ((Int × Nat) × Nat) :=
  bay.buffers.map fun buffer => ((bay.container, buffer.address.value), buffer.length)

def registrations (bay : Bay) : List ((Int × Nat) × Nat) :=
  bay.space.pageRegistrations ++ bay.bufferRegistrations

def pageMappings (bay : Bay) : List (Nat × Nat) :=
  bay.space.pageMappings

theorem container_of_mem_registrations {bay : Bay} {entry : (Int × Nat) × Nat}
    (member : entry ∈ bay.registrations) : entry.1.1 = bay.container := by
  rcases List.mem_append.mp member with page | buffer
  · obtain ⟨_, -, rfl⟩ := List.mem_map.mp page
    rfl
  · obtain ⟨_, -, rfl⟩ := List.mem_map.mp buffer
    rfl

end Bay

structure Depot where
  machine : Simulator
  /-- The host memory that is mapped, interrupt pages left aside. -/
  memory : List (Nat × Nat)
  bays : List Bay

namespace Depot

def pages (depot : Depot) : List (Nat × Nat) :=
  depot.bays.flatMap Bay.pageMappings

def put (depot : Depot) (index : Nat) (machine : Simulator) (bay : Bay) : Depot :=
  { depot with machine := machine, bays := depot.bays.set index bay }

/-- An index that names no bay names nothing to do. -/
def register (depot : Depot) (files : FileTree) (index : Nat) (address : HostAddress)
    (length : Nat) : Depot :=
  match depot.bays[index]? with
  | none => depot
  | some bay =>
      let ended := bay.space.register (Simulator.platform files) address length
        ⟨depot.machine, []⟩
      let buffers := match ended.1.1 with
        | .ok registration => registration :: bay.buffers
        | .error _ => bay.buffers
      depot.put index ended.2.world { space := ended.1.2, buffers := buffers }

/-- A buffer goes back to the bay that registered it. -/
def unregister (depot : Depot) (files : FileTree) (index place : Nat) : Depot :=
  match depot.bays[index]? with
  | none => depot
  | some bay =>
      match bay.buffers[place]? with
      | none => depot
      | some buffer =>
          let ended := bay.space.unregister (Simulator.platform files) buffer ⟨depot.machine, []⟩
          depot.put index ended.2.world
            { space := ended.1, buffers := bay.buffers.eraseIdx place }

def release (depot : Depot) (files : FileTree) (index : Nat) : Depot :=
  match depot.bays[index]? with
  | none => depot
  | some bay =>
      let ended := bay.space.releaseInterruptPage (Simulator.platform files) ⟨depot.machine, []⟩
      depot.put index ended.2.world { bay with space := ended.1 }

def allocate (depot : Depot) (length : Nat) : Depot :=
  { depot with
    machine := (depot.machine.allocate length).2
    memory := (depot.machine.nextAddress, length) :: depot.memory }

def join (depot : Depot) (container : ContainerFd) (source : DeviceFd) : Depot :=
  { depot with bays := { space := DmaSpace.make container source, buffers := [] } :: depot.bays }

/-- The machine after others used it: what they mapped is theirs. -/
def moved (depot : Depot) (machine : Simulator) : Depot :=
  { depot with
    machine := machine
    memory := machine.mappings.toList.filter fun entry =>
      entry.1 ∉ depot.pages.map Prod.fst }

/-- Whatever was done to the machine, the bays' containers and devices are as they were. -/
structure Untouched (depot : Depot) (after : Simulator) : Prop where
  container : ∀ bay ∈ depot.bays,
    after.descriptors[bay.container]? = depot.machine.descriptors[bay.container]?
  source : ∀ bay ∈ depot.bays, after.descriptors[bay.space.interruptSource.number]? =
    depot.machine.descriptors[bay.space.interruptSource.number]?
  registrations : ∀ bay ∈ depot.bays, ∀ address : Nat,
    after.registrations[(bay.container, address)]? =
      depot.machine.registrations[(bay.container, address)]?
  pages : ∀ entry ∈ depot.pages, after.mappings[entry.1]? = depot.machine.mappings[entry.1]?

/-- The depots that can come about. -/
inductive Attained (files : FileTree) : Depot → Prop where
  /-- Every machine that can be reached is fresh and elevated. -/
  | empty {machine : Simulator} (fresh : machine.Fresh) (elevated : machine.Elevated) :
      Attained files { machine := machine, memory := machine.mappings.toList, bays := [] }
  /-- A new bay has an open container of its own with nothing registered in it. -/
  | join {depot : Depot} (attained : Attained files depot) (container : ContainerFd)
      (source : DeviceFd)
      (own : ∀ bay ∈ depot.bays, bay.container ≠ container.number)
      (translating : depot.machine.descriptors[container.number]? = some (.container true))
      (device : ∃ name, depot.machine.descriptors[source.number]? = some (.device name))
      (bare : ∀ address : Nat, depot.machine.registrations[(container.number, address)]? = none) :
      Attained files (depot.join container source)
  | register {depot : Depot} (attained : Attained files depot) (index : Nat)
      (address : HostAddress) (length : Nat) :
      Attained files (depot.register files index address length)
  | unregister {depot : Depot} (attained : Attained files depot) (index place : Nat) :
      Attained files (depot.unregister files index place)
  | release {depot : Depot} (attained : Attained files depot) (index : Nat) :
      Attained files (depot.release files index)
  | allocate {depot : Depot} (attained : Attained files depot) (length : Nat) :
      Attained files (depot.allocate length)
  | inject {depot : Depot} (attained : Attained files depot) (fault : Fault) :
      Attained files { depot with machine := depot.machine.inject fault }
  | clearFaults {depot : Depot} (attained : Attained files depot) :
      Attained files { depot with machine := depot.machine.clearFaults }
  | others {depot : Depot} (attained : Attained files depot) {after : Simulator}
      (next : Step depot.machine after) (untouched : depot.Untouched after) :
      Attained files (depot.moved after)

/-- Each container shows the buffers of its bay and the interrupt page that the bay says it has,
each of them once; each such page is mapped on the host, beside the memory, and nothing else is. -/
structure Agreement (depot : Depot) : Prop where
  registrations : ∀ bay ∈ depot.bays, ∀ address length : Nat,
    depot.machine.registrations[(bay.container, address)]? = some length ↔
      (∃ buffer ∈ bay.buffers, buffer.address.value = address ∧ buffer.length = length) ∨
        bay.space.hasInterruptPage = true ∧ address = Staging.interruptAddress ∧
          length = Staging.interruptLength
  once : ∀ bay ∈ depot.bays, (bay.registrations.map Prod.fst).Nodup
  mappings : ∀ address length : Nat, depot.machine.mappings[address]? = some length ↔
    (address, length) ∈ depot.memory ∨ ∃ bay ∈ depot.bays, ∃ page,
      bay.space.interruptPage = some page ∧ page.value = address ∧
        length = Staging.interruptLength
  apart : ((depot.pages ++ depot.memory).map Prod.fst).Nodup

end Depot

end Passthrough
