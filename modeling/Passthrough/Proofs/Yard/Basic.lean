import Mathlib.Data.List.Flatten
import Mathlib.Data.List.Perm.Basic
import Passthrough.Proofs.Journal.Basic
import Passthrough.Proofs.Session.InUse
import Passthrough.Proofs.Station.Live
import Passthrough.Proofs.Stock.PoolCourse

set_option autoImplicit false

/-! A machine with the pools and the sessions of one program, and all that the program can do. Pools
are opened, take groups and give them up by any handles; a session is started with any pool,
which it takes along, is operated any number of times, and is torn down or dropped.
Meanwhile faults come and go, and so does the gate in front of the machine. Every call that
reaches the machine is written down. -/

namespace Passthrough

open Files (FileTree)
open Simulator (OpenObject)

structure Yard where
  journal : Journal Simulator
  files : FileTree
  gate : Gate
  pools : List Pool
  /-- The newest first. -/
  lives : List Live

namespace Yard

/-- One thing that happens. An index that names nothing names nothing to happen. -/
inductive Action where
  | openPool (limits : PoolLimits)
  | acquire (index : Nat) (group : GroupId)
  | release (index : Nat) (handle : GroupHandle)
  | start (index : Nat) (container : ContainerName)
  | operate (index : Nat) (task : Tool.Task)
  | teardown (index : Nat)
  | drop (index : Nat)
  | setGate (gate : Gate)
  | setFiles (files : FileTree)
  | inject (fault : Fault)
  | clearFaults
  | setViable (group : GroupId) (viable : Bool)
  | setApiVersion (version : Int)

variable {α : Type}

def machine (yard : Yard) : Simulator :=
  yard.journal.world

def platform (yard : Yard) : Platform (Journal Simulator) HostAddress :=
  yard.gate.inFront (Simulator.platform yard.files).journaled

def use (yard : Yard) (index : Nat)
    (operation : Pool → Logged (Journal Simulator) (Result α × Pool)) : Yard :=
  match yard.pools[index]? with
  | none => yard
  | some pool =>
      let ended := operation pool ⟨yard.journal, []⟩
      { yard with journal := ended.2.world, pools := yard.pools.set index ended.1.2 }

/-- A session that could not be started has left no session. The pool is gone in any case. -/
def start (yard : Yard) (index : Nat) (container : ContainerName) : Yard :=
  match yard.pools[index]? with
  | none => yard
  | some pool =>
      let ended := (Session.start yard.platform pool container).outcome ⟨yard.journal, []⟩
      { yard with
        journal := ended.2.world
        pools := yard.pools.eraseIdx index
        lives :=
          match ended.1 with
          | .ok session => ⟨container, session⟩ :: yard.lives
          | .error _ => yard.lives }

def operate (yard : Yard) (index : Nat)
    (operation : Session HostAddress →
      Logged (Journal Simulator) (Result α × Session HostAddress)) : Yard :=
  match yard.lives[index]? with
  | none => yard
  | some live =>
      let ended := operation live.session ⟨yard.journal, []⟩
      { yard with
        journal := ended.2.world
        lives := yard.lives.set index { live with session := ended.1.2 } }

def finish (yard : Yard) (index : Nat)
    (operation : Session HostAddress → Logged (Journal Simulator) α) : Yard :=
  match yard.lives[index]? with
  | none => yard
  | some live =>
      { yard with
        journal := (operation live.session ⟨yard.journal, []⟩).2.world
        lives := yard.lives.eraseIdx index }

def control (yard : Yard) (change : Simulator → Simulator) : Yard :=
  { yard with journal := { yard.journal with world := change yard.journal.world } }

def step (yard : Yard) : Action → Yard
  | .openPool limits => { yard with pools := yard.pools ++ [Pool.empty limits] }
  | .acquire index group => yard.use index (·.acquire yard.platform group)
  | .release index handle => yard.use index (·.release yard.platform handle)
  | .start index container => yard.start index container
  | .operate index task => yard.operate index fun session =>
      task.operate yard.platform yard.files session
  | .teardown index => yard.finish index (Act.outcome <| ·.teardown yard.platform)
  | .drop index => yard.finish index (·.drop yard.platform)
  | .setGate gate => { yard with gate := gate }
  | .setFiles files => { yard with files := files }
  | .inject fault => yard.control (·.inject fault)
  | .clearFaults => yard.control (·.clearFaults)
  | .setViable group viable => yard.control (·.setViable group viable)
  | .setApiVersion version => yard.control (·.setApiVersion version)

def run (yard : Yard) (actions : List Action) : Yard :=
  actions.foldl step yard

/-- A machine that the program has done nothing to yet, with nothing in front of it. -/
def opened (machine : Simulator) (files : FileTree) : Yard :=
  { journal := .opened machine, files := files, gate := .allow, pools := [], lives := [] }

end Yard

/-- What a session holds: what its pool does, the container object, the accelerator and the
portal. -/
def Live.stock (live : Live) : Inventory :=
  { descriptors :=
      (live.session.devices.accelerator.descriptor.toList.map fun accelerator =>
        (accelerator.number, .device live.session.devices.accelerator.name)) ++
      (live.session.containerDevice.number, .device live.container.text) ::
        live.session.pool.descriptors
    attachments := live.session.pool.attachments
    mappings := [live.window] }

theorem Live.stock_beside (live : Live) {accelerator : DeviceFd}
    (opened : live.session.devices.accelerator.descriptor = some accelerator)
    (others : Inventory) :
    live.stock.beside others =
      (live.session.pool.stock.beside others).withDevices live.container live.session
        accelerator := by
  unfold Live.stock
  rw [opened]
  rfl

namespace Inventory

def gather (inventories : List Inventory) : Inventory :=
  { descriptors := inventories.flatMap Inventory.descriptors
    attachments := inventories.flatMap Inventory.attachments
    mappings := inventories.flatMap Inventory.mappings }

def collect (pools : List Pool) (lives : List Live) : Inventory :=
  gather (pools.map Pool.stock ++ lives.map Live.stock)

variable {pools others : List Pool} {pool : Pool} {lives company : List Live} {live : Live}
  {index : Nat}

theorem gather_perm {first second : List Inventory} (same : first.Perm second) :
    (gather first).Perm (gather second) :=
  ⟨same.flatMap_right _, same.flatMap_right _, same.flatMap_right _⟩

theorem collect_perm (samePools : pools.Perm others) (sameLives : lives.Perm company) :
    (collect pools lives).Perm (collect others company) :=
  gather_perm ((samePools.map _).append (sameLives.map _))

theorem collect_live (pools : List Pool) (live : Live) (lives : List Live) :
    (collect pools (live :: lives)).Perm (live.stock.beside (collect pools lives)) :=
  gather_perm List.perm_middle

theorem collect_select_pool (found : pools[index]? = some pool) (lives : List Live) :
    (collect pools lives).Perm (pool.stock.beside (collect (pools.eraseIdx index) lives)) := by
  obtain ⟨bound, rfl⟩ := List.getElem?_eq_some_iff.mp found
  exact collect_perm (List.getElem_cons_eraseIdx_perm bound).symm (.refl lives)

theorem collect_set_pool (bound : index < pools.length) (pool : Pool) (lives : List Live) :
    (collect (pools.set index pool) lives).Perm
      (pool.stock.beside (collect (pools.eraseIdx index) lives)) :=
  collect_perm (List.set_perm_cons_eraseIdx bound pool) (.refl lives)

theorem collect_select_live (pools : List Pool) (found : lives[index]? = some live) :
    (collect pools lives).Perm (live.stock.beside (collect pools (lives.eraseIdx index))) := by
  obtain ⟨bound, rfl⟩ := List.getElem?_eq_some_iff.mp found
  exact (collect_perm (.refl pools) (List.getElem_cons_eraseIdx_perm bound).symm).trans
    (collect_live pools _ _)

theorem collect_append_empty (pools : List Pool) (limits : PoolLimits) (lives : List Live) :
    (collect (pools ++ [Pool.empty limits]) lives).Perm (collect pools lives) :=
  (collect_perm (List.perm_append_singleton _ pools) (.refl lives)).trans
    ⟨.refl _, .refl _, .refl _⟩

end Inventory

def Yard.inventory (yard : Yard) : Inventory :=
  .collect yard.pools yard.lives

end Passthrough
