import Mathlib.Data.List.Perm.Basic
import Passthrough.Proofs.Session.Passing
import Passthrough.Proofs.Station.StartCourse

set_option autoImplicit false

/-! A machine with the sessions that run on it, and what can happen to them. A session is
started with an empty pool of its own, operated on any number of times, and torn down or
dropped; between operations faults come and go, groups change their viability, the system its
version, and the files their contents. After any run the machine holds what
its live sessions hold, and nothing else. -/

namespace Passthrough

open Files (FileTree)

structure Station where
  machine : Simulator
  files : FileTree
  /-- The newest first. -/
  sessions : List Live

namespace Station

/-- One thing that happens. An index that names no session names nothing to happen. -/
inductive Action where
  | start (limits : PoolLimits) (container : ContainerName)
  | status (index : Nat)
  | reset (index : Nat)
  | timeOfDay (index : Nat)
  | setTimeOfDay (index : Nat) (time : UInt64)
  | load (index : Nat) (request : LoadRequest)
  | teardown (index : Nat)
  | drop (index : Nat)
  | inject (fault : Fault)
  | clearFaults
  | setViable (group : GroupId) (viable : Bool)
  | setApiVersion (version : Int)
  | setFiles (files : FileTree)

variable {α : Type}

def platform (station : Station) : Platform Simulator HostAddress :=
  Simulator.platform station.files

/-- A session that could not be started has left no session. -/
def start (station : Station) (limits : PoolLimits) (container : ContainerName) : Station :=
  match (Session.start station.platform (Pool.empty limits) container).outcome
    ⟨station.machine, []⟩ with
  | (.ok session, traced) =>
      { station with
        machine := traced.world
        sessions := ⟨container, session⟩ :: station.sessions }
  | (.error _, traced) => { station with machine := traced.world }

def operate (station : Station) (index : Nat)
    (operation : Session HostAddress → Logged Simulator (Result α × Session HostAddress)) :
    Station :=
  match station.sessions[index]? with
  | none => station
  | some live =>
      let ended := operation live.session ⟨station.machine, []⟩
      { station with
        machine := ended.2.world
        sessions := station.sessions.set index { live with session := ended.1.2 } }

def finish (station : Station) (index : Nat)
    (operation : Session HostAddress → Logged Simulator α) : Station :=
  match station.sessions[index]? with
  | none => station
  | some live =>
      { station with
        machine := (operation live.session ⟨station.machine, []⟩).2.world
        sessions := station.sessions.eraseIdx index }

def control (station : Station) (change : Simulator → Simulator) : Station :=
  { station with machine := change station.machine }

def step (station : Station) : Action → Station
  | .start limits container => station.start limits container
  | .status index => station.operate index (·.status station.platform)
  | .reset index => station.operate index (·.reset station.platform)
  | .timeOfDay index => station.operate index (·.timeOfDay station.platform)
  | .setTimeOfDay index time => station.operate index (·.setTimeOfDay station.platform time)
  | .load index request =>
      station.operate index (·.load station.platform station.files request)
  | .teardown index => station.finish index (Act.outcome <| ·.teardown station.platform)
  | .drop index => station.finish index (·.drop station.platform)
  | .inject fault => station.control (·.inject fault)
  | .clearFaults => station.control (·.clearFaults)
  | .setViable group viable => station.control (·.setViable group viable)
  | .setApiVersion version => station.control (·.setApiVersion version)
  | .setFiles files => { station with files := files }

def run (station : Station) (actions : List Action) : Station :=
  actions.foldl step station

def opened (machine : Simulator) (files : FileTree) : Station :=
  { machine := machine, files := files, sessions := [] }

def Action.ends? : Action → Option Nat
  | .teardown index => some index
  | .drop index => some index
  | _ => none

end Station

structure Live.HeldIn (live : Live) (sim : Simulator) : Prop where
  descriptors : ∀ entry ∈ live.descriptors, sim.descriptors[entry.1]? = some entry.2
  attachment : sim.attachments[live.attachment.1]? = some live.attachment.2
  window : sim.mappings[live.window.1]? = some live.window.2

namespace Station

/-- The machine holds what its sessions hold, every thing for one of them, and nothing else. -/
structure Ownership (station : Station) : Prop where
  descriptors : ∀ number object, station.machine.descriptors[number]? = some object ↔
    ∃ live ∈ station.sessions, (number, object) ∈ live.descriptors
  disjoint : ((station.sessions.flatMap Live.descriptors).map Prod.fst).Nodup
  complete : ∀ live ∈ station.sessions,
    ∃ accelerator, live.session.devices.accelerator.descriptor = some accelerator
  attachments : ∀ group container, station.machine.attachments[group]? = some container ↔
    ∃ live ∈ station.sessions, live.attachment = (group, container)
  mappings : ∀ address length, station.machine.mappings[address]? = some length ↔
    ∃ live ∈ station.sessions, live.window = (address, length)
  windows : (station.sessions.map fun live => live.session.portal.value).Nodup
  registrations : station.machine.registrations = ∅
  tokens : station.machine.sessions = ∅
  groups : (station.sessions.map fun live => live.session.group.group).Nodup

theorem mem_finish {α : Type} {station : Station} (index : Nat)
    (operation : Session HostAddress → Logged Simulator α) {other : Nat} {live : Live}
    (found : station.sessions[other]? = some live) (apart : other ≠ index) :
    live ∈ (station.finish index operation).sessions := by
  unfold finish
  cases station.sessions[index]? with
  | none => exact List.mem_of_getElem? found
  | some ended => exact List.mem_eraseIdx_iff_getElem?.mpr ⟨other, apart, found⟩

/-- What one action preserves. -/
structure Owned (attributes : TileAttributes) (station : Station) : Prop where
  owns : Owns attributes (Inventory.of station.sessions) station.machine
  sound : ∀ live ∈ station.sessions, live.Sound
  own : ∀ live ∈ station.sessions,
    live.session.devices.accelerator.hardwareId = attributes.id

namespace Owned

variable {attributes : TileAttributes} {station : Station}

theorem start (owned : Owned attributes station) (limits : PoolLimits)
    (container : ContainerName) :
    Owned attributes (station.start limits container) ∧
      station.sessions ⊆ (station.start limits container).sessions := by
  have known := Session.start_owns owned.owns station.files limits container []
  unfold Station.start platform
  generalize (Session.start (Simulator.platform station.files) (Pool.empty limits)
    container).outcome ⟨station.machine, []⟩ = ended at known ⊢
  obtain ⟨result, traced⟩ := ended
  cases result with
  | ok session =>
      obtain ⟨sound, own, owns⟩ := known
      refine ⟨⟨owns, ?_, ?_⟩, List.subset_cons_self _ _⟩
      · intro live member
        rcases List.mem_cons.mp member with rfl | old
        · exact sound
        · exact owned.sound live old
      · intro live member
        rcases List.mem_cons.mp member with rfl | old
        · exact own
        · exact owned.own live old
  | error failure =>
      exact ⟨⟨known, owned.sound, owned.own⟩, List.Subset.refl _⟩

theorem operate {α : Type} (owned : Owned attributes station) (index : Nat)
    (operation : Session HostAddress → Logged Simulator (Result α × Session HostAddress))
    (keeps : ∀ live ∈ station.sessions,
      (operation live.session).Yields station.machine fun outcome after =>
        Owns attributes (Inventory.of station.sessions) after ∧ outcome.2 = live.session) :
    Owned attributes (station.operate index operation) ∧
      (station.operate index operation).sessions = station.sessions := by
  unfold Station.operate
  cases found : station.sessions[index]? with
  | none => exact ⟨owned, rfl⟩
  | some live =>
      obtain ⟨bound, same⟩ := List.getElem?_eq_some_iff.mp found
      obtain ⟨owns, left⟩ := keeps live (List.mem_of_getElem? found) []
      have unchanged : station.sessions.set index
          { live with session := (operation live.session ⟨station.machine, []⟩).1.2 } =
            station.sessions := by
        rw [left, ← same]
        exact List.set_getElem_self bound
      dsimp only
      rw [unchanged]
      exact ⟨⟨owns, owned.sound, owned.own⟩, rfl⟩

theorem task (owned : Owned attributes station) (index : Nat) (task : Tool.Task) :
    Owned attributes (station.operate index
        (task.operate station.platform station.files)) ∧
      (station.operate index (task.operate station.platform station.files)).sessions =
        station.sessions := by
  apply owned.operate index _
  intro live member
  have fronts := Simulator.fronts_platform station.files
  refine (fronts.passes (owned.sound live member).atRest id id id task owned.owns.fresh).mono ?_
  rintro _ after ⟨passing, same⟩
  exact ⟨owned.owns.passing passing, same⟩

theorem finish {α : Type} (owned : Owned attributes station) (index : Nat)
    (operation : Session HostAddress → Logged Simulator α)
    (gives : ∀ live others, live.Sound →
      Owns attributes (Inventory.of (live :: others)) station.machine →
      (operation live.session).Yields station.machine fun _ after =>
        Owns attributes (Inventory.of others) after) :
    Owned attributes (station.finish index operation) := by
  unfold Station.finish
  cases found : station.sessions[index]? with
  | none => exact owned
  | some live =>
      obtain ⟨bound, rfl⟩ := List.getElem?_eq_some_iff.mp found
      have reordered := (List.getElem_cons_eraseIdx_perm bound).symm
      have owns : Owns attributes
          (Inventory.of (station.sessions[index] :: station.sessions.eraseIdx index))
            station.machine :=
        owned.owns.perm (reordered.flatMap_right _) (reordered.map _) (reordered.map _)
      have sound := owned.sound _ (List.getElem_mem bound)
      refine ⟨gives _ _ sound owns [], ?_, ?_⟩
      · exact fun live member => owned.sound live (List.mem_of_mem_eraseIdx member)
      · exact fun live member => owned.own live (List.mem_of_mem_eraseIdx member)

theorem control (owned : Owned attributes station) (change : Simulator → Simulator)
    (control : Simulator.Control station.machine (change station.machine)) :
    Owned attributes (station.control change) :=
  ⟨owned.owns.control control, owned.sound, owned.own⟩

/-- One action preserves the invariant, and ends no session but the one that it names. -/
theorem step (owned : Owned attributes station) (action : Action) :
    Owned attributes (station.step action) ∧
      ∀ (index : Nat) (live : Live), station.sessions[index]? = some live →
        action.ends? ≠ some index → live ∈ (station.step action).sessions := by
  have stays {after : Station}
      (kept : Owned attributes after ∧ after.sessions = station.sessions) :
      Owned attributes after ∧ ∀ (index : Nat) (live : Live),
        station.sessions[index]? = some live → action.ends? ≠ some index →
          live ∈ after.sessions := by
    refine ⟨kept.1, fun index live found _ => ?_⟩
    rw [kept.2]
    exact List.mem_of_getElem? found
  cases action with
  | start limits container =>
      obtain ⟨kept, more⟩ := owned.start limits container
      exact ⟨kept, fun _ _ found _ => more (List.mem_of_getElem? found)⟩
  | status index => exact stays (owned.task index .status)
  | reset index => exact stays (owned.task index .reset)
  | timeOfDay index => exact stays (owned.task index .timeOfDay)
  | setTimeOfDay index time => exact stays (owned.task index (.setTimeOfDay time))
  | load index request => exact stays (owned.task index (.load request))
  | teardown index =>
      refine ⟨owned.finish index (Act.outcome <| ·.teardown station.platform) ?_, ?_⟩
      · intro live others sound owns
        exact (Live.teardown sound owns station.files).mono fun _ _ ended => ended.2
      · intro other live found apart
        exact mem_finish index _ found fun same => apart (congrArg some same.symm)
  | drop index =>
      refine ⟨owned.finish index (·.drop station.platform) ?_, ?_⟩
      · exact fun live others sound owns => Live.drop sound owns station.files
      · intro other live found apart
        exact mem_finish index _ found fun same => apart (congrArg some same.symm)
  | inject fault =>
      exact stays ⟨owned.control (·.inject fault) (Simulator.control_inject _ fault), rfl⟩
  | clearFaults => exact stays ⟨owned.control (·.clearFaults) (Simulator.control_clearFaults _), rfl⟩
  | setViable group viable =>
      exact stays ⟨owned.control (·.setViable group viable)
        (Simulator.control_setViable _ group viable), rfl⟩
  | setApiVersion version =>
      exact stays ⟨owned.control (·.setApiVersion version)
        (Simulator.control_setApiVersion _ version), rfl⟩
  | setFiles files =>
      exact stays ⟨⟨owned.owns, owned.sound, owned.own⟩, rfl⟩

theorem run (owned : Owned attributes station) (actions : List Action) :
    Owned attributes (station.run actions) := by
  induction actions generalizing station with
  | nil => exact owned
  | cons action rest ih => exact ih (owned.step action).1

theorem opened {machine : Simulator} (fresh : machine.Fresh) (nothing : machine.HoldsNothing)
    (files : FileTree) : Owned machine.tile.attributes (Station.opened machine files) where
  owns := Owns.nothing fresh nothing
  sound := List.forall_mem_nil _
  own := List.forall_mem_nil _

theorem ownership (owned : Owned attributes station) : station.Ownership := by
  have owns := owned.owns
  have disjoint : ((station.sessions.flatMap Live.descriptors).map Prod.fst).Nodup :=
    owns.descriptors.distinct
  refine {
    descriptors := ?_
    disjoint := disjoint
    complete := fun live member => (owned.sound live member).opened
    attachments := ?_
    mappings := ?_
    windows := ?_
    registrations := owns.registrations
    tokens := owns.sessions
    groups := ?_ }
  · intro number object
    exact owns.descriptors.getElem?_iff.trans List.mem_flatMap
  · intro group container
    exact owns.attachments.getElem?_iff.trans List.mem_map
  · intro address length
    exact owns.mappings.getElem?_iff.trans List.mem_map
  · have distinct := owns.mappings.distinct
    rw [show (Inventory.of station.sessions).mappings = station.sessions.map Live.window from rfl,
      List.map_map] at distinct
    exact distinct
  · rw [List.map_flatMap, List.nodup_flatMap] at disjoint
    refine List.pairwise_map.mpr (disjoint.2.imp_of_mem ?_)
    intro first second one other apart same
    have listed (live : Live) (member : live ∈ station.sessions) :
        (live.session.group.descriptor.number, .group live.session.group.group) ∈
          (Inventory.of station.sessions).descriptors :=
      List.mem_flatMap.mpr ⟨live, member, live.group_mem_descriptors⟩
    have twice := owns.exclusive _ _ _ (listed first one) (same ▸ listed second other)
    apply apart (List.mem_map.mpr ⟨_, first.group_mem_descriptors, rfl⟩)
    rw [twice]
    exact List.mem_map.mpr ⟨_, second.group_mem_descriptors, rfl⟩

theorem heldIn (owned : Owned attributes station) {live : Live}
    (member : live ∈ station.sessions) : live.HeldIn station.machine where
  descriptors entry listed :=
    owned.owns.descriptors.has entry (List.mem_flatMap.mpr ⟨live, member, listed⟩)
  attachment := owned.owns.attachments.has _ (List.mem_map_of_mem member)
  window := owned.owns.mappings.has _ (List.mem_map_of_mem member)

theorem holdsNothing (owned : Owned attributes station) (ended : station.sessions = []) :
    station.machine.HoldsNothing := by
  have owns := owned.owns
  rw [ended] at owns
  exact ⟨owns.descriptors.eq_base id, owns.attachments.eq_base id, owns.mappings.eq_base id,
    owns.registrations, owns.sessions⟩

end Owned

/-- Whatever is done with any number of sessions on a machine that held nothing, the machine
holds exactly what its live sessions hold. No action takes anything from a session but the
one that ends it, and a machine without sessions holds nothing again. -/
theorem run_ownership (machine : Simulator) (files : FileTree) (reachable : machine.Reachable)
    (nothing : machine.holdings.isEmpty = true) (actions : List Action) :
    ((opened machine files).run actions).Ownership ∧
      (∀ (action : Action) (index : Nat) (live : Live),
        ((opened machine files).run actions).sessions[index]? = some live →
        action.ends? ≠ some index →
          live ∈ (((opened machine files).run actions).step action).sessions ∧
          live.HeldIn (((opened machine files).run actions).step action).machine) ∧
      (((opened machine files).run actions).sessions = [] →
        ((opened machine files).run actions).machine.HoldsNothing) := by
  have owned := (Owned.opened reachable.fresh (reachable.holdsNothing nothing) files).run actions
  refine ⟨owned.ownership, ?_, owned.holdsNothing⟩
  intro action index live found stays
  obtain ⟨kept, others⟩ := owned.step action
  exact ⟨others index live found stays, kept.heldIn (others index live found stays)⟩

theorem run_ownership_of_teardown :
    let station := opened (Tool.demonstration .standard) ⟨[], []⟩
    (station.run [.start .standard .standard]).sessions.length = 1 ∧
      (station.run [.start .standard .standard, .teardown 0]).machine.HoldsNothing := by
  refine ⟨by decide +kernel, ?_⟩
  apply (run_ownership (Tool.demonstration .standard) ⟨[], []⟩
    (Simulator.reachable_demonstration .standard) (by decide +kernel)
    [.start .standard .standard, .teardown 0]).2.2
  exact List.eq_nil_of_length_eq_zero (by decide +kernel)

end Station

end Passthrough
