import Passthrough.Proofs.Action.Yields
import Passthrough.Proofs.Simulator.Orderly
import Passthrough.Proofs.Table.Comprises

set_option autoImplicit false

/-! A machine that holds what an inventory lists, beside what an earlier machine held. The
inventory names descriptors, attachments and host mappings; registrations and firmware
sessions are those of the earlier machine. A lenient account says only that what is listed
is there, and nothing of the rest. Each operation by which groups, devices and portals
come and go moves the machine and the inventory together. -/

namespace Passthrough

open Simulator (OpenObject FirmwareChange)

structure Inventory where
  descriptors : List (Int × OpenObject)
  attachments : List (Int × Int)
  mappings : List (Nat × Nat)

namespace Inventory

def empty : Inventory :=
  { descriptors := [], attachments := [], mappings := [] }

def withDescriptor (inventory : Inventory) (number : Int) (object : OpenObject) : Inventory :=
  { inventory with descriptors := (number, object) :: inventory.descriptors }

def withAttachment (inventory : Inventory) (group container : Int) : Inventory :=
  { inventory with attachments := (group, container) :: inventory.attachments }

def withMapping (inventory : Inventory) (address length : Nat) : Inventory :=
  { inventory with mappings := (address, length) :: inventory.mappings }

def detached (inventory : Inventory) (group : Int) : Inventory :=
  { inventory with attachments := inventory.attachments.filter fun entry => entry.1 != group }

theorem detached_of_apart {inventory : Inventory} {number : Int}
    (apart : ∀ entry ∈ inventory.attachments, entry.1 ≠ number) :
    inventory.detached number = inventory := by
  unfold detached
  congr 1
  rw [List.filter_eq_self]
  exact fun entry member => bne_iff_ne.mpr (apart entry member)

def beside (inventory others : Inventory) : Inventory :=
  { descriptors := inventory.descriptors ++ others.descriptors
    attachments := inventory.attachments ++ others.attachments
    mappings := inventory.mappings ++ others.mappings }

/-- The same entries in another order. -/
structure Perm (inventory others : Inventory) : Prop where
  descriptors : inventory.descriptors.Perm others.descriptors
  attachments : inventory.attachments.Perm others.attachments
  mappings : inventory.mappings.Perm others.mappings

namespace Perm

variable {first second third : Inventory}

theorem symm (same : first.Perm second) : second.Perm first :=
  ⟨same.descriptors.symm, same.attachments.symm, same.mappings.symm⟩

theorem trans (one : first.Perm second) (other : second.Perm third) : first.Perm third :=
  ⟨one.descriptors.trans other.descriptors, one.attachments.trans other.attachments,
    one.mappings.trans other.mappings⟩

theorem beside (same : first.Perm second) (others : Inventory) :
    (first.beside others).Perm (second.beside others) :=
  ⟨same.descriptors.append_right _, same.attachments.append_right _,
    same.mappings.append_right _⟩

end Perm

/-- A part of an inventory. -/
structure Part (inventory others : Inventory) : Prop where
  descriptors : inventory.descriptors.Sublist others.descriptors
  attachments : inventory.attachments.Sublist others.attachments
  mappings : inventory.mappings.Sublist others.mappings

theorem part_beside (inventory others : Inventory) : others.Part (inventory.beside others) :=
  ⟨List.sublist_append_right _ _, List.sublist_append_right _ _, List.sublist_append_right _ _⟩

end Inventory

/-- A change of what decides whether operations succeed, and of nothing else. -/
structure Simulator.Control (before after : Simulator) : Prop where
  next : Simulator.Step before after
  same : ∃ groups faults apiVersion,
    after = { before with groups := groups, faults := faults, apiVersion := apiVersion }

namespace Simulator

theorem control_inject (sim : Simulator) (fault : Fault) : Control sim (sim.inject fault) := by
  refine ⟨.inject fault, ?_⟩
  unfold inject
  split <;> exact ⟨_, _, _, rfl⟩

theorem control_clearFaults (sim : Simulator) : Control sim sim.clearFaults :=
  ⟨.clearFaults, _, _, _, rfl⟩

theorem control_setViable (sim : Simulator) (group : GroupId) (viable : Bool) :
    Control sim (sim.setViable group viable) := by
  refine ⟨.setViable group viable, ?_⟩
  unfold setViable
  split <;> exact ⟨_, _, _, rfl⟩

theorem control_setApiVersion (sim : Simulator) (version : Int) :
    Control sim (sim.setApiVersion version) :=
  ⟨.setApiVersion version, _, _, _, rfl⟩

end Simulator

structure Stocked (lenient : Prop) (base : Simulator) (inventory : Inventory)
    (sim : Simulator) : Prop where
  ground : base.Orderly
  orderly : sim.Orderly
  descriptors : Comprises lenient base.descriptors inventory.descriptors sim.descriptors
  attachments : Comprises lenient base.attachments inventory.attachments sim.attachments
  mappings : Comprises lenient base.mappings inventory.mappings sim.mappings
  registrations : ¬ lenient → sim.registrations = base.registrations
  sessions : ¬ lenient → sim.sessions = base.sessions
  lastToken : ¬ lenient → sim.lastToken = base.lastToken
  attributes : sim.tile.attributes = base.tile.attributes

namespace Stocked

variable {lenient : Prop} {base sim after : Simulator} {inventory others : Inventory}

theorem refl (orderly : sim.Orderly) : Stocked lenient sim .empty sim where
  ground := orderly
  orderly := orderly
  descriptors := .refl lenient _
  attachments := .refl lenient _
  mappings := .refl lenient _
  registrations _ := rfl
  sessions _ := rfl
  lastToken _ := rfl
  attributes := rfl

theorem perm (stocked : Stocked lenient base inventory sim) (reordered : inventory.Perm others) :
    Stocked lenient base others sim :=
  { stocked with
    descriptors := stocked.descriptors.perm reordered.descriptors
    attachments := stocked.attachments.perm reordered.attachments
    mappings := stocked.mappings.perm reordered.mappings }

theorem congr (stocked : Stocked lenient base inventory sim) (orderly : after.Orderly)
    (descriptors : after.descriptors = sim.descriptors)
    (attachments : after.attachments = sim.attachments) (mappings : after.mappings = sim.mappings)
    (registrations : after.registrations = sim.registrations)
    (sessions : after.sessions = sim.sessions) (lastToken : after.lastToken = sim.lastToken)
    (attributes : after.tile.attributes = sim.tile.attributes) :
    Stocked lenient base inventory after where
  ground := stocked.ground
  orderly := orderly
  descriptors := descriptors ▸ stocked.descriptors
  attachments := attachments ▸ stocked.attachments
  mappings := mappings ▸ stocked.mappings
  registrations strict := registrations.trans (stocked.registrations strict)
  sessions strict := sessions.trans (stocked.sessions strict)
  lastToken strict := lastToken.trans (stocked.lastToken strict)
  attributes := attributes.trans stocked.attributes

theorem part (stocked : Stocked lenient base inventory sim) (allowed : lenient)
    (part : others.Part inventory) : Stocked lenient base others sim :=
  { stocked with
    descriptors := stocked.descriptors.sublist allowed part.descriptors
    attachments := stocked.attachments.sublist allowed part.attachments
    mappings := stocked.mappings.sublist allowed part.mappings }

theorem grown (stocked : Stocked lenient base inventory sim) (allowed : lenient)
    (orderly : after.Orderly)
    (descriptors : ∀ (number : Int) (object : OpenObject),
      sim.descriptors[number]? = some object → after.descriptors[number]? = some object)
    (attachments : after.attachments = sim.attachments)
    (mappings : ∀ address length : Nat,
      sim.mappings[address]? = some length → after.mappings[address]? = some length)
    (attributes : after.tile.attributes = sim.tile.attributes) :
    Stocked lenient base inventory after where
  ground := stocked.ground
  orderly := orderly
  descriptors := stocked.descriptors.grown allowed descriptors
  attachments := attachments ▸ stocked.attachments
  mappings := stocked.mappings.grown allowed mappings
  registrations strict := absurd allowed strict
  sessions strict := absurd allowed strict
  lastToken strict := absurd allowed strict
  attributes := attributes.trans stocked.attributes

theorem control (stocked : Stocked lenient base inventory sim)
    (control : Simulator.Control sim after) : Stocked lenient base inventory after := by
  obtain ⟨next, groups, faults, apiVersion, same⟩ := control
  refine stocked.congr (stocked.orderly.step next) ?_ ?_ ?_ ?_ ?_ ?_ ?_
  all_goals rw [same]

theorem talks (stocked : Stocked lenient base inventory sim) (allowed : lenient)
    (change : FirmwareChange sim after) : Stocked lenient base inventory after := by
  refine stocked.grown allowed (stocked.orderly.firmware change) ?_ ?_ ?_ change.attributes
  · rw [change.same]
    exact fun _ _ same => same
  · rw [change.same]
  · rw [change.same]
    exact fun _ _ same => same

theorem firmware (stocked : Stocked lenient base inventory sim)
    (change : FirmwareChange sim after) :
    Stocked lenient { base with lastToken := after.lastToken, sessions := after.sessions }
      inventory after where
  ground := stocked.ground.firmware ⟨rfl, rfl, rfl⟩
  orderly := stocked.orderly.firmware change
  descriptors := by
    rw [change.same]
    exact stocked.descriptors
  attachments := by
    rw [change.same]
    exact stocked.attachments
  mappings := by
    rw [change.same]
    exact stocked.mappings
  registrations strict := by
    rw [change.same]
    exact stocked.registrations strict
  sessions _ := rfl
  lastToken _ := rfl
  attributes := change.attributes.trans stocked.attributes

theorem unopened (stocked : Stocked lenient base inventory sim) {number : Int}
    {object : OpenObject} (listed : (number, object) ∈ inventory.descriptors) :
    base.descriptors[number]? = none :=
  stocked.descriptors.beside _ listed

theorem unattached (stocked : Stocked lenient base inventory sim) {number : Int}
    {object : OpenObject} (listed : (number, object) ∈ inventory.descriptors) :
    base.attachments[number]? = none := by
  cases attached : base.attachments[number]? with
  | none => rfl
  | some container =>
      obtain ⟨group, opened⟩ := stocked.ground.anchored number container attached
      rw [stocked.unopened listed] at opened
      cases opened

/-! ### Opening -/

private theorem issue (stocked : Stocked lenient base inventory sim) (event : Event)
    (object : OpenObject) (closed : ∀ group, object = .group group →
      ∀ number : Int, sim.descriptors[number]? ≠ some (.group group)) :
    Stocked lenient base (inventory.withDescriptor (sim.lastDescriptor + 1) object)
      ((sim.note event).issue object).2 :=
  { stocked with
    orderly := stocked.orderly.turn (.opens object closed rfl rfl rfl)
      ((stocked.orderly.fresh.issue object).congr rfl rfl rfl rfl)
    descriptors := stocked.descriptors.insert object
      (stocked.orderly.fresh.descriptors (sim.lastDescriptor + 1) (Int.lt_succ _)) }

theorem openGroup (stocked : Stocked lenient base inventory sim) (group : GroupId) :
    Result.Either
      (fun descriptor => (∀ entry ∈ inventory.attachments, entry.1 ≠ descriptor.number) ∧
        Stocked lenient base (inventory.withDescriptor descriptor.number (.group group))
          (sim.openGroup group).2)
      (Stocked lenient base inventory (sim.openGroup group).2) (sim.openGroup group).1 := by
  rw [Simulator.openGroup_eq]
  repeat' split
  · exact stocked
  · exact stocked
  · next closed =>
      refine ⟨?_, stocked.issue (.openGroup group) (.group group) ?_⟩
      · rintro ⟨number, container⟩ member rfl
        obtain ⟨group, opened⟩ :=
          stocked.orderly.anchored _ container (stocked.attachments.has _ member)
        rw [stocked.orderly.fresh.descriptors _ (Int.lt_succ _)] at opened
        cases opened
      · rintro _ ⟨⟩
        exact Simulator.not_open_of_isOpenGroup closed
  · exact stocked

theorem openContainer (stocked : Stocked lenient base inventory sim) :
    Result.Either
      (fun descriptor =>
        Stocked lenient base (inventory.withDescriptor descriptor.number (.container false))
          sim.openContainer.2)
      (Stocked lenient base inventory sim.openContainer.2) sim.openContainer.1 :=
  stocked.issue .openContainer (.container false) nofun

theorem deviceFd (stocked : Stocked lenient base inventory sim) (group : GroupFd)
    (name : String) :
    Result.Either
      (fun descriptor =>
        Stocked lenient base (inventory.withDescriptor descriptor.number (.device name))
          (sim.deviceFd group name).2)
      (Stocked lenient base inventory (sim.deviceFd group name).2) (sim.deviceFd group name).1 := by
  rw [Simulator.deviceFd_eq]
  repeat' split
  · exact stocked.issue (.openDevice name) (.device name) nofun
  all_goals exact stocked

theorem mapPortal (stocked : Stocked lenient base inventory sim) (device : DeviceFd) :
    Result.Either
      (fun portal =>
        Stocked lenient base (inventory.withMapping portal.value Simulator.portalLength)
          (sim.mapPortal device).2)
      (Stocked lenient base inventory (sim.mapPortal device).2) (sim.mapPortal device).1 := by
  rw [Simulator.mapPortal_eq]
  repeat' split
  · exact stocked
  · exact { stocked with
      orderly := stocked.orderly.turn (.aside rfl rfl rfl)
        ((stocked.orderly.fresh.allocate Simulator.portalLength).congr rfl rfl rfl rfl)
      mappings := stocked.mappings.insert Simulator.portalLength
        (stocked.orderly.fresh.mappings sim.nextAddress (Nat.le_refl _)) }
  all_goals exact stocked

/-! ### Attaching -/

theorem setContainer (stocked : Stocked lenient base inventory sim) (group : GroupFd)
    (container : ContainerFd) :
    Result.Either
      (fun _ => Stocked lenient base (inventory.withAttachment group.number container.number)
        (sim.setContainer group container).2)
      (Stocked lenient base inventory (sim.setContainer group container).2)
      (sim.setContainer group container).1 := by
  rw [Simulator.setContainer_eq]
  repeat' split
  · exact stocked
  · exact stocked
  · next opened _ vacant =>
      have absent : sim.attachments[group.number]? = none := by
        rw [Std.ExtTreeMap.contains_eq_isSome_getElem?] at vacant
        exact Option.not_isSome_iff_eq_none.mp vacant
      exact { stocked with
        orderly := stocked.orderly.turn
          (.attaches group.number container.number opened rfl rfl rfl)
          (stocked.orderly.fresh.congr rfl rfl rfl rfl)
        attachments := stocked.attachments.insert container.number absent }
  all_goals exact stocked

theorem unsetContainer (stocked : Stocked lenient base inventory sim) {group : GroupFd}
    {object : OpenObject} (listed : (group.number, object) ∈ inventory.descriptors) :
    Result.Either
      (fun _ => Stocked lenient base (inventory.detached group.number)
        (sim.unsetContainer group).2)
      (Stocked lenient base inventory (sim.unsetContainer group).2)
      (sim.unsetContainer group).1 := by
  rw [Simulator.unsetContainer_eq]
  split
  · exact { stocked with
      orderly := stocked.orderly.turn (.detaches group.number rfl rfl rfl)
        (stocked.orderly.fresh.congr rfl rfl rfl rfl)
      attachments := stocked.attachments.erase_filter (stocked.unattached listed) }
  · exact stocked

theorem setIommu (stocked : Stocked lenient base inventory sim) {container : ContainerFd}
    {translating : Bool} {rest : List (Int × OpenObject)}
    (top : inventory.descriptors = (container.number, .container translating) :: rest) :
    Result.Either
      (fun _ => Stocked lenient base
        { inventory with descriptors := (container.number, .container true) :: rest }
        (sim.setIommu container).2)
      (Stocked lenient base inventory (sim.setIommu container).2) (sim.setIommu container).1 := by
  have known := stocked.descriptors
  rw [top] at known
  have opened := known.has _ List.mem_cons_self
  rw [Simulator.setIommu_eq]
  repeat' split
  · exact stocked
  · exact { stocked with
      orderly := stocked.orderly.turn (.selects container.number opened rfl rfl rfl)
        (stocked.orderly.fresh.replaceDescriptor opened _)
      descriptors := known.replace _ }
  all_goals exact stocked

/-! ### Closing -/

/-- What is open can be closed. With a group goes its attachment. -/
theorem closeGroup (stocked : Stocked lenient base inventory sim) {number : Int} {group : GroupId}
    {rest : List (Int × OpenObject)}
    (top : inventory.descriptors = (number, .group group) :: rest) :
    (sim.close number).1 = .ok () ∧
      Stocked lenient base { inventory.detached number with descriptors := rest }
        (sim.close number).2 := by
  have listed : (number, .group group) ∈ inventory.descriptors := top ▸ List.mem_cons_self
  have known := stocked.descriptors
  rw [top] at known
  have orderly := stocked.orderly.step (.close number)
  rw [Simulator.close_eq, known.has _ List.mem_cons_self] at orderly ⊢
  exact ⟨rfl, { stocked with
    orderly := orderly
    descriptors := known.erase
    attachments := stocked.attachments.erase_filter (stocked.unattached listed) }⟩

theorem closeContainer (stocked : Stocked lenient base inventory sim) {number : Int}
    {translating : Bool} {rest : List (Int × OpenObject)}
    (top : inventory.descriptors = (number, .container translating) :: rest) :
    (sim.close number).1 = .ok () ∧
      Stocked lenient base { inventory with descriptors := rest } (sim.close number).2 := by
  have listed : (number, .container translating) ∈ inventory.descriptors :=
    top ▸ List.mem_cons_self
  have bare : ∀ translating, base.descriptors[number]? ≠ some (.container translating) := by
    rw [stocked.unopened listed]
    exact fun _ => nofun
  have known := stocked.descriptors
  rw [top] at known
  have orderly := stocked.orderly.step (.close number)
  rw [Simulator.close_eq, known.has _ List.mem_cons_self] at orderly ⊢
  exact ⟨rfl, { stocked with
    orderly := orderly
    descriptors := known.erase
    registrations := fun strict =>
      (congrArg (Std.ExtTreeMap.filter _) (stocked.registrations strict)).trans
        (stocked.ground.rooted.filter_eq bare) }⟩

theorem closePlain (stocked : Stocked lenient base inventory sim) {number : Int}
    {object : OpenObject} {rest : List (Int × OpenObject)}
    (top : inventory.descriptors = (number, object) :: rest)
    (plain : ∀ group, object ≠ .group group)
    (single : ∀ translating, object ≠ .container translating) :
    (sim.close number).1 = .ok () ∧
      Stocked lenient base { inventory with descriptors := rest } (sim.close number).2 := by
  have known := stocked.descriptors
  rw [top] at known
  have orderly := stocked.orderly.step (.close number)
  rw [Simulator.close_eq, known.has _ List.mem_cons_self] at orderly ⊢
  cases object with
  | group group => exact absurd rfl (plain group)
  | container translating => exact absurd rfl (single translating)
  | _ =>
      exact ⟨rfl, { stocked with
        orderly := orderly
        descriptors := known.erase }⟩

theorem dropPortal (stocked : Stocked lenient base inventory sim) {portal : HostAddress}
    {length : Nat} {rest : List (Nat × Nat)}
    (top : inventory.mappings = (portal.value, length) :: rest) :
    Stocked lenient base { inventory with mappings := rest } (sim.dropPortal portal) := by
  have known := stocked.mappings
  rw [top] at known
  exact { stocked with
    orderly := stocked.orderly.step (.dropPortal portal)
    mappings := known.erase }

end Stocked

end Passthrough
