import Mathlib.Data.List.Flatten
import Mathlib.Data.List.Perm.Basic
import Passthrough.Proofs.Pool.History
import Passthrough.Proofs.Stock.PoolCourse

set_option autoImplicit false

/-! Several pools over one machine. Groups are acquired for any of them and released from any of
them, by handles that may be stale or belong to another pool, while faults come and go,
groups change their viability and the system its version. After any run the machine holds
what the pools say they hold, and nothing else. -/

namespace Passthrough

open Files (FileTree)
open Pool.SlotTable (at? items)
open Simulator (OpenObject)

structure Estate where
  machine : Simulator
  files : FileTree
  pools : List Pool

namespace Estate

/-- One thing that happens. An index that names no pool names nothing to happen. -/
inductive Action where
  | acquire (index : Nat) (group : GroupId)
  | release (index : Nat) (handle : GroupHandle)
  | inject (fault : Fault)
  | clearFaults
  | setViable (group : GroupId) (viable : Bool)
  | setApiVersion (version : Int)

variable {α : Type}

def platform (estate : Estate) : Platform Simulator HostAddress :=
  Simulator.platform estate.files

def apply (estate : Estate) (index : Nat)
    (operation : Pool → Logged Simulator (Result α × Pool)) : Estate :=
  match estate.pools[index]? with
  | none => estate
  | some pool =>
      let ended := operation pool ⟨estate.machine, []⟩
      { estate with machine := ended.2.world, pools := estate.pools.set index ended.1.2 }

def control (estate : Estate) (change : Simulator → Simulator) : Estate :=
  { estate with machine := change estate.machine }

def step (estate : Estate) : Action → Estate
  | .acquire index group => estate.apply index (·.acquire estate.platform group)
  | .release index handle => estate.apply index (·.release estate.platform handle)
  | .inject fault => estate.control (·.inject fault)
  | .clearFaults => estate.control (·.clearFaults)
  | .setViable group viable => estate.control (·.setViable group viable)
  | .setApiVersion version => estate.control (·.setApiVersion version)

def run (estate : Estate) (actions : List Action) : Estate :=
  actions.foldl step estate

def opened (machine : Simulator) (files : FileTree) (limits : List PoolLimits) : Estate :=
  { machine := machine, files := files, pools := limits.map Pool.empty }

def groups (estate : Estate) : List GroupSlot :=
  estate.pools.flatMap fun pool => (items pool.groups).map Prod.snd

/-- The machine holds what the pools hold, every thing for one of them, and nothing else. -/
structure Agreement (estate : Estate) : Prop where
  descriptors : ∀ number object, estate.machine.descriptors[number]? = some object ↔
    ∃ pool ∈ estate.pools, (number, object) ∈ pool.descriptors
  disjoint : ((estate.pools.flatMap Pool.descriptors).map Prod.fst).Nodup
  attachments : ∀ group container, estate.machine.attachments[group]? = some container ↔
    ∃ pool ∈ estate.pools, (group, container) ∈ pool.attachments
  attached : ∀ pool ∈ estate.pools, ∀ slot owned, at? pool.groups slot = some owned →
    ∃ container, at? pool.containers owned.container = some container ∧
      estate.machine.attachments[owned.descriptor.number]? = some container.descriptor.number
  translating : ∀ pool ∈ estate.pools, ∀ index container,
    at? pool.containers index = some container →
      estate.machine.descriptors[container.descriptor.number]? = some (.container true)
  exclusive : (estate.groups.map GroupSlot.group).Nodup
  sound : ∀ pool ∈ estate.pools, pool.Sound

end Estate

def Inventory.ofPools (pools : List Pool) : Inventory :=
  { descriptors := pools.flatMap Pool.descriptors
    attachments := pools.flatMap Pool.attachments
    mappings := [] }

namespace Inventory

variable {pools others : List Pool} {pool : Pool} {index : Nat}

theorem ofPools_perm (same : pools.Perm others) : (ofPools pools).Perm (ofPools others) :=
  ⟨same.flatMap_right _, same.flatMap_right _, .refl _⟩

theorem ofPools_select (found : pools[index]? = some pool) :
    (ofPools pools).Perm (pool.stock.beside (ofPools (pools.eraseIdx index))) := by
  obtain ⟨bound, rfl⟩ := List.getElem?_eq_some_iff.mp found
  exact ofPools_perm (List.getElem_cons_eraseIdx_perm bound).symm

theorem ofPools_set (bound : index < pools.length) (pool : Pool) :
    (ofPools (pools.set index pool)).Perm
      (pool.stock.beside (ofPools (pools.eraseIdx index))) :=
  ofPools_perm (List.set_perm_cons_eraseIdx bound pool)

end Inventory

namespace Estate

structure Accounted (base : Simulator) (estate : Estate) : Prop where
  stocked : Stocked False base (Inventory.ofPools estate.pools) estate.machine
  sound : ∀ pool ∈ estate.pools, pool.Sound

namespace Accounted

variable {base : Simulator} {estate : Estate} {index : Nat} {pool : Pool}

theorem replace (accounted : Accounted base estate) (found : estate.pools[index]? = some pool)
    {left : Pool} {after : Simulator} (sound : left.Sound)
    (stocked : Stocked False base
      (left.stock.beside (Inventory.ofPools (estate.pools.eraseIdx index))) after) :
    Accounted base { estate with machine := after, pools := estate.pools.set index left } where
  stocked := by
    obtain ⟨bound, -⟩ := List.getElem?_eq_some_iff.mp found
    exact stocked.perm (Inventory.ofPools_set bound left).symm
  sound other member := by
    rcases List.mem_or_eq_of_mem_set member with old | rfl
    · exact accounted.sound other old
    · exact sound

theorem acquire (accounted : Accounted base estate) (found : estate.pools[index]? = some pool)
    (group : GroupId) :
    (pool.acquire estate.platform group).Yields estate.machine fun outcome after =>
      Accounted base { estate with machine := after, pools := estate.pools.set index outcome.2 } ∧
        ∀ failure, outcome.1 = .error failure →
          outcome.2 = pool ∧ Stocked False base (Inventory.ofPools estate.pools) after := by
  have selected := Inventory.ofPools_select found
  have kept := (Simulator.hosts_platform estate.files).keepsStock (fun _ => id) base
  refine (kept.acquiresBeside (accounted.sound pool (List.mem_of_getElem? found))
    (accounted.stocked.perm selected) group).mono ?_
  rintro ⟨result, left⟩ after ⟨sound, stocked, -, -, failed⟩
  refine ⟨accounted.replace found sound stocked, fun failure same => ?_⟩
  cases failed failure same
  exact ⟨rfl, stocked.perm selected.symm⟩

theorem release (accounted : Accounted base estate) (found : estate.pools[index]? = some pool)
    (handle : GroupHandle) :
    (pool.release estate.platform handle).Yields estate.machine fun outcome after =>
      Accounted base
        { estate with machine := after, pools := estate.pools.set index outcome.2 } := by
  have kept := (Simulator.hosts_platform estate.files).keepsStock (fun _ => id) base
  refine (kept.releasesBeside (accounted.sound pool (List.mem_of_getElem? found))
    (accounted.stocked.perm (Inventory.ofPools_select found)) handle).mono ?_
  exact fun _ _ left => accounted.replace found left.1 left.2

theorem apply {α : Type} (accounted : Accounted base estate) (index : Nat)
    {operation : Pool → Logged Simulator (Result α × Pool)}
    (keeps : ∀ pool, estate.pools[index]? = some pool →
      (operation pool).Yields estate.machine fun outcome after =>
        Accounted base
          { estate with machine := after, pools := estate.pools.set index outcome.2 }) :
    Accounted base (estate.apply index operation) := by
  unfold Estate.apply
  cases found : estate.pools[index]? with
  | none => exact accounted
  | some pool => exact keeps pool found []

theorem control (accounted : Accounted base estate) (change : Simulator → Simulator)
    (control : Simulator.Control estate.machine (change estate.machine)) :
    Accounted base (estate.control change) :=
  ⟨accounted.stocked.control control, accounted.sound⟩

theorem step (accounted : Accounted base estate) (action : Action) :
    Accounted base (estate.step action) := by
  cases action with
  | acquire index group =>
      refine accounted.apply index fun pool found => ?_
      exact (accounted.acquire found group).mono fun _ _ known => known.1
  | release index handle =>
      exact accounted.apply index fun pool found => accounted.release found handle
  | inject fault => exact accounted.control (·.inject fault) (Simulator.control_inject _ fault)
  | clearFaults => exact accounted.control (·.clearFaults) (Simulator.control_clearFaults _)
  | setViable group viable =>
      exact accounted.control (·.setViable group viable)
        (Simulator.control_setViable _ group viable)
  | setApiVersion version =>
      exact accounted.control (·.setApiVersion version) (Simulator.control_setApiVersion _ version)

theorem run (accounted : Accounted base estate) (actions : List Action) :
    Accounted base (estate.run actions) := by
  induction actions generalizing estate with
  | nil => exact accounted
  | cons action rest ih => exact ih (accounted.step action)

theorem opened {machine : Simulator} (orderly : machine.Orderly) (files : FileTree)
    (limits : List PoolLimits) : Accounted machine (Estate.opened machine files limits) where
  stocked := by
    have bare : Inventory.ofPools (limits.map Pool.empty) = .empty := by
      induction limits with
      | nil => rfl
      | cons first rest ih => exact ih
    change Stocked False machine (Inventory.ofPools (limits.map Pool.empty)) machine
    rw [bare]
    exact .refl orderly
  sound pool member := by
    obtain ⟨first, -, rfl⟩ := List.mem_map.mp member
    exact Pool.sound_empty first

theorem opened_group (accounted : Accounted base estate) (member : pool ∈ estate.pools)
    {slot : Nat} {owned : GroupSlot} (found : at? pool.groups slot = some owned) :
    estate.machine.descriptors[owned.descriptor.number]? = some (.group owned.group) := by
  have named : Pool.groupEntry (slot, owned) ∈ pool.descriptors :=
    List.mem_append_right _ (List.mem_map_of_mem (Pool.SlotTable.mem_items.mpr found))
  exact accounted.stocked.descriptors.has _ (List.mem_flatMap.mpr ⟨pool, member, named⟩)

theorem opened_container (accounted : Accounted base estate) (member : pool ∈ estate.pools)
    {index : Nat} {container : ContainerSlot}
    (live : at? pool.containers index = some container) :
    estate.machine.descriptors[container.descriptor.number]? = some (.container true) := by
  have named : Pool.containerEntry (index, container) ∈ pool.descriptors :=
    List.mem_append_left _ (List.mem_map_of_mem (Pool.SlotTable.mem_items.mpr live))
  exact accounted.stocked.descriptors.has _ (List.mem_flatMap.mpr ⟨pool, member, named⟩)

theorem exclusive (accounted : Accounted base estate) :
    (estate.groups.map GroupSlot.group).Nodup := by
  have sublist : (estate.groups.map fun owned => owned.descriptor.number).Sublist
      ((Inventory.ofPools estate.pools).descriptors.map Prod.fst) := by
    unfold groups Inventory.ofPools
    rw [List.map_flatMap, List.map_flatMap]
    refine List.Sublist.flatMap_right _ fun pool _ => ?_
    rw [Pool.descriptors, List.map_append, List.map_map, List.map_map, List.map_map]
    exact List.sublist_append_right _ _
  have distinct := accounted.stocked.descriptors.distinct.sublist sublist
  refine List.Nodup.map_on ?_ (List.Nodup.of_map _ distinct)
  intro first one second other same
  refine List.inj_on_of_nodup_map distinct one other ?_
  have opened {owned : GroupSlot} (member : owned ∈ estate.groups) :
      estate.machine.descriptors[owned.descriptor.number]? = some (.group owned.group) := by
    obtain ⟨pool, among, listed⟩ := List.mem_flatMap.mp member
    obtain ⟨⟨slot, _⟩, held, rfl⟩ := List.mem_map.mp listed
    exact accounted.opened_group among (Pool.SlotTable.mem_items.mp held)
  exact accounted.stocked.orderly.exclusive _ _ _ (opened one) (same ▸ opened other)

theorem agreement (accounted : Accounted base estate) (bare : base.HoldsNothing) :
    estate.Agreement := by
  have descriptors := accounted.stocked.descriptors
  have attachments := accounted.stocked.attachments
  rw [bare.descriptors] at descriptors
  rw [bare.attachments] at attachments
  refine {
    descriptors := fun number object => descriptors.getElem?_iff.trans List.mem_flatMap
    disjoint := descriptors.distinct
    attachments := fun group container => attachments.getElem?_iff.trans List.mem_flatMap
    attached := ?_
    translating := fun _ member _ _ live => accounted.opened_container member live
    exclusive := accounted.exclusive
    sound := accounted.sound }
  intro pool member slot owned found
  obtain ⟨container, live, -⟩ := (accounted.sound pool member).housed found
  have recorded : pool.attachment? (slot, owned) =
      some (owned.descriptor.number, container.descriptor.number) := by
    unfold Pool.attachment?
    rw [live]
    rfl
  have listed := List.mem_filterMap.mpr
    ⟨(slot, owned), Pool.SlotTable.mem_items.mpr found, recorded⟩
  exact ⟨container, live, attachments.has _ (List.mem_flatMap.mpr ⟨pool, member, listed⟩)⟩

end Accounted

/-- Whatever is done with any number of pools on a machine that held nothing, the machine and the
pools agree, and a group that cannot be acquired leaves all as it was. -/
theorem run_agreement (machine : Simulator) (files : FileTree) (limits : List PoolLimits)
    (reachable : machine.Reachable) (nothing : machine.holdings.isEmpty = true)
    (actions : List Action) :
    let estate := (opened machine files limits).run actions
    estate.Agreement ∧
      ∀ (index : Nat) (pool : Pool) (group : GroupId) (failure : DriverError),
        estate.pools[index]? = some pool →
        (pool.acquire estate.platform group ⟨estate.machine, []⟩).1.1 = .error failure →
          (estate.step (.acquire index group)).pools = estate.pools ∧
          (estate.step (.acquire index group)).machine.descriptors =
            estate.machine.descriptors ∧
          (estate.step (.acquire index group)).machine.attachments =
            estate.machine.attachments := by
  intro estate
  have accounted : Accounted machine estate :=
    (Accounted.opened reachable.orderly files limits).run actions
  refine ⟨accounted.agreement (reachable.holdsNothing nothing), ?_⟩
  intro index pool group failure found failed
  obtain ⟨unchanged, stocked⟩ := (accounted.acquire found group []).2 failure failed
  have reached : estate.step (.acquire index group) =
      { estate with
        machine := (pool.acquire estate.platform group ⟨estate.machine, []⟩).2.world
        pools := estate.pools.set index
          (pool.acquire estate.platform group ⟨estate.machine, []⟩).1.2 } := by
    change estate.apply index _ = _
    unfold Estate.apply
    rw [found]
  rw [reached, unchanged]
  refine ⟨?_, ?_, ?_⟩
  · dsimp only
    obtain ⟨bound, rfl⟩ := List.getElem?_eq_some_iff.mp found
    exact List.set_getElem_self bound
  · exact stocked.descriptors.unique accounted.stocked.descriptors id
  · exact stocked.attachments.unique accounted.stocked.attachments id

theorem run_agreement_of_contended_group :
    let limits : List PoolLimits := [.standard, .standard]
    let actions : List Action := [.inject .setIommu, .acquire 0 ⟨0⟩, .clearFaults, .acquire 0 ⟨0⟩]
    let estate := (opened (Tool.demonstration .standard) ⟨[], []⟩ limits).run actions
    estate.groups.length = 1 ∧ estate.Agreement ∧
      (estate.step (.acquire 1 ⟨0⟩)).pools = estate.pools := by
  intro limits actions estate
  obtain ⟨agreement, unchanged⟩ := run_agreement (Tool.demonstration .standard) ⟨[], []⟩ limits
    (Simulator.reachable_demonstration .standard) (by decide +kernel) actions
  refine ⟨by decide +kernel, agreement, ?_⟩
  have contended := unchanged 1 (Pool.empty .standard) ⟨0⟩
    (Simulator.refusal "open VFIO group" .busy) (by decide +kernel) (by decide +kernel)
  exact contended.1

end Estate

end Passthrough
