import Passthrough.Proofs.Session.Passing
import Passthrough.Proofs.Simulator.PortalService
import Passthrough.Proofs.Stock.Stocked

set_option autoImplicit false

/-! A machine that holds exactly what an inventory lists. The inventory names every open
descriptor, every attachment and every host mapping; no buffer is registered and no
firmware session is open. Each operation by which sessions start and end moves the
machine and the inventory together. -/

namespace Passthrough

open Simulator (OpenObject FirmwareChange)

namespace Simulator

/-- A machine that nothing has happened to, but for the tokens that were handed out. -/
def blank (sim : Simulator) : Simulator :=
  { empty sim.tile with lastToken := sim.lastToken }

theorem blank_orderly (sim : Simulator) : sim.blank.Orderly :=
  (Orderly.empty sim.tile).firmware ⟨rfl, rfl, rfl⟩

theorem blank_holdsNothing (sim : Simulator) : sim.blank.HoldsNothing :=
  ⟨rfl, rfl, rfl, rfl, rfl⟩

end Simulator

structure Owns (attributes : TileAttributes) (inventory : Inventory) (sim : Simulator) : Prop where
  fresh : sim.Fresh
  descriptors : Comprises False ∅ inventory.descriptors sim.descriptors
  attachments : Comprises False ∅ inventory.attachments sim.attachments
  mappings : Comprises False ∅ inventory.mappings sim.mappings
  registrations : sim.registrations = ∅
  sessions : sim.sessions = ∅
  attributes : sim.tile.attributes = attributes
  /-- Only open groups are attached. -/
  anchored : ∀ entry ∈ inventory.attachments,
    ∃ group, (entry.1, OpenObject.group group) ∈ inventory.descriptors
  /-- No group is open twice. -/
  exclusive : ∀ first second group, (first, OpenObject.group group) ∈ inventory.descriptors →
    (second, OpenObject.group group) ∈ inventory.descriptors → first = second

namespace Owns

variable {attributes : TileAttributes} {inventory : Inventory} {sim : Simulator}

theorem descriptor_listed (owns : Owns attributes inventory sim) {number : Int}
    {object : OpenObject} (found : sim.descriptors[number]? = some object) :
    (number, object) ∈ inventory.descriptors := by
  rcases owns.descriptors.only id number object found with listed | based
  · exact listed
  · rw [Std.ExtTreeMap.getElem?_empty] at based
    cases based

theorem nothing (fresh : sim.Fresh) (nothing : sim.HoldsNothing) :
    Owns sim.tile.attributes .empty sim where
  fresh := fresh
  descriptors := nothing.descriptors ▸ Comprises.refl _ _
  attachments := nothing.attachments ▸ Comprises.refl _ _
  mappings := nothing.mappings ▸ Comprises.refl _ _
  registrations := nothing.registrations
  sessions := nothing.sessions
  attributes := rfl
  anchored := nofun
  exclusive := nofun

theorem congr (owns : Owns attributes inventory sim) {after : Simulator} (fresh : after.Fresh)
    (descriptors : after.descriptors = sim.descriptors)
    (attachments : after.attachments = sim.attachments) (mappings : after.mappings = sim.mappings)
    (registrations : after.registrations = sim.registrations)
    (sessions : after.sessions = sim.sessions)
    (same : after.tile.attributes = sim.tile.attributes) :
    Owns attributes inventory after where
  fresh := fresh
  descriptors := descriptors ▸ owns.descriptors
  attachments := attachments ▸ owns.attachments
  mappings := mappings ▸ owns.mappings
  registrations := registrations.trans owns.registrations
  sessions := sessions.trans owns.sessions
  attributes := same.trans owns.attributes
  anchored := owns.anchored
  exclusive := owns.exclusive

theorem orderly (owns : Owns attributes inventory sim) : sim.Orderly where
  fresh := owns.fresh
  anchored number container attached := by
    obtain ⟨group, listed⟩ :=
      owns.anchored (number, container) (owns.attachments.getElem?_iff.mp attached)
    exact ⟨group, owns.descriptors.has _ listed⟩
  exclusive first second group one other :=
    owns.exclusive first second group (owns.descriptor_listed one) (owns.descriptor_listed other)
  rooted container address length found := by
    rw [owns.registrations, Std.ExtTreeMap.getElem?_empty] at found
    cases found

theorem stocked (owns : Owns attributes inventory sim) : Stocked False sim.blank inventory sim where
  ground := sim.blank_orderly
  orderly := owns.orderly
  descriptors := owns.descriptors
  attachments := owns.attachments
  mappings := owns.mappings
  registrations _ := owns.registrations
  sessions _ := owns.sessions
  lastToken _ := rfl
  attributes := rfl

end Owns

theorem Stocked.owns {base sim : Simulator} {inventory : Inventory}
    (stocked : Stocked False base inventory sim) (bare : base.HoldsNothing) :
    Owns base.tile.attributes inventory sim where
  fresh := stocked.orderly.fresh
  descriptors := bare.descriptors ▸ stocked.descriptors
  attachments := bare.attachments ▸ stocked.attachments
  mappings := bare.mappings ▸ stocked.mappings
  registrations := (stocked.registrations id).trans bare.registrations
  sessions := (stocked.sessions id).trans bare.sessions
  attributes := stocked.attributes
  anchored entry member := by
    obtain ⟨group, opened⟩ :=
      stocked.orderly.anchored entry.1 entry.2 (stocked.attachments.has entry member)
    exact ⟨group, (bare.descriptors ▸ stocked.descriptors).getElem?_iff.mp opened⟩
  exclusive first second group one other :=
    stocked.orderly.exclusive first second group (stocked.descriptors.has _ one)
      (stocked.descriptors.has _ other)

namespace Owns

variable {attributes : TileAttributes} {inventory : Inventory} {sim : Simulator}

theorem moved (owns : Owns attributes inventory sim) {others : Inventory} {after : Simulator}
    (stocked : Stocked False sim.blank others after) : Owns attributes others after := by
  rw [← owns.attributes]
  exact stocked.owns sim.blank_holdsNothing

theorem control (owns : Owns attributes inventory sim) {after : Simulator}
    (control : Simulator.Control sim after) : Owns attributes inventory after :=
  owns.moved (owns.stocked.control control)

/-- Whoever gives back all that it takes leaves what is owned. -/
theorem passing (owns : Owns attributes inventory sim) {after : Simulator}
    (passing : sim.Passing after) : Owns attributes inventory after := by
  have unused : sim.nextToken ∉ sim.sessions := by
    rw [owns.sessions]
    exact Std.ExtTreeSet.not_mem_empty
  exact owns.congr passing.fresh passing.descriptors passing.attachments passing.mappings
    passing.registrations (passing.visit.restored fun _ => unused) passing.attributes

theorem unsetContainer (owns : Owns attributes inventory sim) {group : GroupFd} {container : Int}
    {rest : List (Int × Int)} (top : inventory.attachments = (group.number, container) :: rest) :
    sim.unsetContainer group = (.ok (), (sim.unsetContainer group).2) ∧
      Owns attributes { inventory with attachments := rest } (sim.unsetContainer group).2 := by
  obtain ⟨descriptors, attachments, mappings⟩ := inventory
  cases top
  have there : sim.attachments.contains group.number = true := by
    rw [Std.ExtTreeMap.contains_eq_isSome_getElem?]
    exact Option.isSome_of_eq_some (owns.attachments.has _ List.mem_cons_self)
  have detached : Comprises False ∅ rest (sim.attachments.erase group.number) :=
    owns.attachments.erase
  rw [Simulator.unsetContainer_eq, if_pos there]
  exact ⟨rfl, owns.moved { owns.stocked with
    orderly := owns.orderly.turn (.detaches group.number rfl rfl rfl)
      (owns.fresh.congr rfl rfl rfl rfl)
    attachments := detached }⟩

theorem close (owns : Owns attributes inventory sim) {number : Int} {object : OpenObject}
    {rest : List (Int × OpenObject)} (top : inventory.descriptors = (number, object) :: rest)
    (detached : ∀ group, object = .group group →
      ∀ entry ∈ inventory.attachments, entry.1 ≠ number) :
    sim.close number = (.ok (), (sim.close number).2) ∧
      Owns attributes { inventory with descriptors := rest } (sim.close number).2 := by
  have closed {others : Inventory} (known : (sim.close number).1 = .ok () ∧
      Stocked False sim.blank others (sim.close number).2) :
      sim.close number = (.ok (), (sim.close number).2) ∧
        Owns attributes others (sim.close number).2 :=
    ⟨Prod.ext known.1 rfl, owns.moved known.2⟩
  cases object with
  | group group =>
      have closes := closed (owns.stocked.closeGroup top)
      rwa [Inventory.detached_of_apart (detached group rfl)] at closes
  | container translating => exact closed (owns.stocked.closeContainer top)
  | device name => exact closed (owns.stocked.closePlain top nofun nofun)
  | file => exact closed (owns.stocked.closePlain top nofun nofun)

theorem dropPortal (owns : Owns attributes inventory sim) {portal : HostAddress} {length : Nat}
    {rest : List (Nat × Nat)} (top : inventory.mappings = (portal.value, length) :: rest) :
    Owns attributes { inventory with mappings := rest } (sim.dropPortal portal) :=
  owns.moved (owns.stocked.dropPortal top)

theorem perm (owns : Owns attributes inventory sim) {others : Inventory}
    (descriptors : inventory.descriptors.Perm others.descriptors)
    (attachments : inventory.attachments.Perm others.attachments)
    (mappings : inventory.mappings.Perm others.mappings) : Owns attributes others sim :=
  owns.moved (owns.stocked.perm ⟨descriptors, attachments, mappings⟩)

end Owns

end Passthrough
