import Passthrough.Proofs.Journal.Shed
import Passthrough.Proofs.Stock.PoolCourse

set_option autoImplicit false

/-! The calls by which groups and sessions are given up, and what they come to where some of them
are refused. Each is attempted once and in a fixed order, whatever came of the others; what
is reported is the first refusal; and the machine has lost what was not refused. -/

namespace Passthrough

open Files (FileTree)
open Pool.SlotTable (at? items)
open Simulator (OpenObject)

/-! ### Calls that a gate lets through or refuses -/

namespace Gate

def refusal? (gate : Gate) (operation : Operation) : Option DriverError :=
  let asked := match operation with
    | .closeKind kind => gate.closing kind
    | operation => operation
  if gate.refuses asked then some (.kernel asked.name (.numbered .notPermitted)) else none

/-- What a journal says of a call that only the gate can fail. -/
def entry (gate : Gate) (call : Operation × Int) : Entry :=
  ⟨call.1, some call.2, gate.refusal? call.1⟩

theorem call_mem_of_entry_mem (gate : Gate) {calls : List (Operation × Int)} {entry : Entry}
    (member : entry ∈ calls.map gate.entry) {number : Int} (subject : entry.subject = some number) :
    (entry.operation, number) ∈ calls := by
  obtain ⟨call, listed, rfl⟩ := List.mem_map.mp member
  cases subject
  exact listed

/-- A descriptor is closed by some calls, with nothing in the way. -/
def Closes (gate : Gate) (calls : List (Operation × Int)) (number : Int) : Prop :=
  ∃ kind, (.closeKind kind, number) ∈ calls ∧ gate.denies (.closeKind kind) = false

def Detaches (gate : Gate) (calls : List (Operation × Int)) (number : Int) : Prop :=
  (.unsetContainer, number) ∈ calls ∧ gate.denies .unsetContainer = false ∨
    gate.Closes calls number

theorem refusal?_isSome (gate : Gate) (operation : Operation) :
    (gate.refusal? operation).isSome = gate.denies operation := by
  have decided (asked : Operation) (failure : DriverError) :
      (if gate.refuses asked then some failure else none).isSome = gate.refuses asked := by
    cases gate.refuses asked <;> rfl
  cases operation with
  | closeKind kind =>
      refine (decided _ _).trans ?_
      unfold denies closing
      cases whole : gate.refuses .close with
      | true => exact whole
      | false => rfl
  | _ => exact decided _ _

theorem refusal?_eq_none_iff (gate : Gate) (operation : Operation) :
    gate.refusal? operation = none ↔ gate.denies operation = false := by
  rw [← gate.refusal?_isSome, Option.isSome_eq_false_iff, Option.isNone_iff_eq_none]

theorem done_mem_map_entry (gate : Gate) {calls : List (Operation × Int)} {operation : Operation}
    {number : Int} :
    ⟨operation, some number, none⟩ ∈ calls.map gate.entry ↔
      (operation, number) ∈ calls ∧ gate.denies operation = false := by
  rw [List.mem_map, ← gate.refusal?_eq_none_iff]
  constructor
  · rintro ⟨⟨made, subject⟩, listed, same⟩
    obtain ⟨rfl, rfl, passed⟩ :
        made = operation ∧ subject = number ∧ gate.refusal? made = none := by
      simpa [entry] using same
    exact ⟨listed, passed⟩
  · rintro ⟨listed, passed⟩
    refine ⟨_, listed, ?_⟩
    rw [entry, passed]

theorem closed_map_entry (gate : Gate) {calls : List (Operation × Int)} {number : Int} :
    Entry.Closed (calls.map gate.entry) number ↔ gate.Closes calls number :=
  exists_congr fun _ => gate.done_mem_map_entry

theorem detached_map_entry (gate : Gate) {calls : List (Operation × Int)} {number : Int} :
    Entry.Detached (calls.map gate.entry) number ↔ gate.Detaches calls number :=
  or_congr gate.done_mem_map_entry gate.closed_map_entry

theorem findSome?_refusal?_eq_none_iff (gate : Gate) (calls : List (Operation × Int)) :
    calls.findSome? (fun call => gate.refusal? call.1) = none ↔
      ∀ call ∈ calls, gate.denies call.1 = false := by
  rw [List.findSome?_eq_none_iff]
  exact forall₂_congr fun call _ => gate.refusal?_eq_none_iff call.1

end Gate

/-- An action that does one step on the machine and is written down, or is refused and written
down. -/
def Act.Attempts (gate : Gate) (call : Operation × Int)
    (step : Simulator → Result Unit × Simulator) (action : Act (Journal Simulator) Unit) : Prop :=
  ∀ journal, action.Yields journal fun result after =>
    after.calls = journal.calls ++ [⟨call.1, some call.2, result.failure?⟩] ∧
      match gate.refusal? call.1 with
      | some failure => result = .error failure ∧ after.world = journal.world
      | none => (result, after.world) = step journal.world

/-- What a platform does to take things away, where a gate says what it refuses. -/
structure Platform.Attempts (platform : Platform (Journal Simulator) HostAddress) (gate : Gate) :
    Prop where
  close {kind : DescriptorKind} (descriptor : Descriptor kind) :
    (platform.close descriptor).Attempts gate (.closeKind kind, descriptor.number)
      (·.close descriptor.number)
  unsetContainer (group : GroupFd) :
    (platform.unsetContainer group).Attempts gate (.unsetContainer, group.number)
      (·.unsetContainer group)
  dropPortal (portal : HostAddress) (journal : Journal Simulator) :
    (platform.dropPortal portal).Yields journal fun _ after =>
      after = { journal with world := journal.world.dropPortal portal }

namespace Gate

theorem attempts_guard (gate : Gate) (call : Operation × Int) {asked : Operation}
    (decided : gate.refusal? call.1 =
      if gate.refuses asked then some (.kernel asked.name (.numbered .notPermitted)) else none)
    (step : Simulator → Result Unit × Simulator) :
    (Journal.act call.1 (some call.2) (gate.guard asked (Act.ofWorld step))).Attempts gate call
      step := by
  intro journal
  refine Journal.yields_act ?_
  unfold guard
  rw [decided]
  by_cases refused : gate.refuses asked = true
  · rw [if_pos refused, if_pos refused]
    exact Act.Yields.throw ⟨rfl, rfl, rfl⟩
  · rw [if_neg refused, if_neg refused]
    exact fun _ => ⟨rfl, rfl⟩

theorem attempts_journaled (gate : Gate) (files : FileTree) :
    (gate.inFront (Simulator.platform files)).journaled.Attempts gate where
  close descriptor := gate.attempts_guard (.closeKind _, descriptor.number) rfl _
  unsetContainer group := gate.attempts_guard (.unsetContainer, group.number) rfl _
  dropPortal _ _ _ := rfl

theorem attempts_allow (files : FileTree) :
    (Gate.allow.inFront (Simulator.platform files).journaled).Attempts .allow where
  close _ _ _ := ⟨rfl, rfl⟩
  unsetContainer _ _ _ := ⟨rfl, rfl⟩
  dropPortal _ _ _ := rfl

end Gate

/-! ### The course of giving up -/

/-- Some calls were made since a journal was at its start, and the machine has lost what they
took. -/
structure Journal.Given (gate : Gate) (start : Journal Simulator) (done : List (Operation × Int))
    (journal : Journal Simulator) : Prop where
  calls : journal.calls = start.calls ++ done.map gate.entry
  shed : start.world.Shed (done.map gate.entry) journal.world

namespace Journal.Given

variable {gate : Gate} {start journal : Journal Simulator} {done : List (Operation × Int)}

theorem refl (gate : Gate) (orderly : journal.world.Orderly) : journal.Given gate [] journal where
  calls := (List.append_nil _).symm
  shed := .refl orderly

variable {platform : Platform (Journal Simulator) HostAddress}

theorem attempt (given : start.Given gate done journal) {call : Operation × Int}
    {step : Simulator → Result Unit × Simulator} {action : Act (Journal Simulator) Unit}
    (attempts : action.Attempts gate call step)
    (known : (step journal.world).1 = .ok () ∧
      journal.world.Shed [⟨call.1, some call.2, none⟩] (step journal.world).2) :
    action.Yields journal fun result after => result.failure? = gate.refusal? call.1 ∧
      start.Given gate (done ++ [call]) after := by
  refine (attempts journal).mono ?_
  rintro result after ⟨calls, outcome⟩
  have moved (same : result.failure? = gate.refusal? call.1)
      (shed : journal.world.Shed [gate.entry call] after.world) :
      start.Given gate (done ++ [call]) after := by
    refine ⟨?_, ?_⟩
    · rw [calls, given.calls, same, List.map_append, List.append_assoc]
      rfl
    · rw [List.map_append]
      exact given.shed.trans shed
  cases refusal : gate.refusal? call.1 with
  | some failure =>
      rw [refusal] at outcome
      obtain ⟨rfl, same⟩ := outcome
      refine ⟨rfl, moved refusal.symm ?_⟩
      rw [same]
      exact .failed given.shed.orderly refusal
  | none =>
      rw [refusal] at outcome
      obtain ⟨told, reached⟩ := Prod.mk.inj outcome
      rw [known.1] at told
      cases told
      refine ⟨rfl, moved refusal.symm ?_⟩
      rw [reached, Gate.entry, refusal]
      exact known.2

theorem descriptor (given : start.Given gate done journal) {number : Int}
    (apart : ∀ kind, (Operation.closeKind kind, number) ∉ done) :
    journal.world.descriptors[number]? = start.world.descriptors[number]? := by
  refine given.shed.descriptors.kept number ?_
  rintro ⟨kind, member⟩
  exact apart kind (gate.call_mem_of_entry_mem member rfl)

theorem attachment (given : start.Given gate done journal) {number : Int}
    (apart : ∀ operation, (operation, number) ∉ done) :
    journal.world.attachments[number]? = start.world.attachments[number]? := by
  refine given.shed.attachments.kept number ?_
  rintro (member | ⟨kind, member⟩)
  · exact apart _ (gate.call_mem_of_entry_mem member rfl)
  · exact apart _ (gate.call_mem_of_entry_mem member rfl)

theorem close (given : start.Given gate done journal) (attempts : platform.Attempts gate)
    {kind : DescriptorKind} {descriptor : Descriptor kind} {object : OpenObject}
    (opened : start.world.descriptors[descriptor.number]? = some object)
    (apart : ∀ kind, (Operation.closeKind kind, descriptor.number) ∉ done) :
    (platform.close descriptor).Yields journal fun result after =>
      result.failure? = gate.refusal? (.closeKind kind) ∧
        start.Given gate (done ++ [(.closeKind kind, descriptor.number)]) after :=
  given.attempt (attempts.close descriptor)
    (given.shed.orderly.shed_close ((given.descriptor apart).trans opened) kind)

theorem unsetContainer (given : start.Given gate done journal)
    (attempts : platform.Attempts gate) {group : GroupFd} {container : Int}
    (attached : start.world.attachments[group.number]? = some container)
    (apart : ∀ operation, (operation, group.number) ∉ done) :
    (platform.unsetContainer group).Yields journal fun result after =>
      result.failure? = gate.refusal? .unsetContainer ∧
        start.Given gate (done ++ [(.unsetContainer, group.number)]) after :=
  given.attempt (attempts.unsetContainer group)
    (given.shed.orderly.shed_unsetContainer ((given.attachment apart).trans attached))

end Journal.Given

/-! ### Giving up a group -/

def Pool.isLast (pool : Pool) (slot : Nat) : Bool :=
  (items pool.groups).all fun (place, other) =>
    place == slot || (at? pool.groups slot).map GroupSlot.container != some other.container

theorem Pool.Sound.isLast_iff {pool : Pool} (sound : pool.Sound) {slot : Nat} {owned : GroupSlot}
    {host : ContainerSlot} (found : at? pool.groups slot = some owned)
    (live : at? pool.containers owned.container = some host) :
    pool.isLast slot = true ↔ (host.without slot).members = [] := by
  unfold isLast
  rw [List.all_eq_true, List.eq_nil_iff_forall_not_mem, found]
  constructor
  · intro alone place member
    obtain ⟨listed, apart⟩ := ContainerSlot.mem_without.mp member
    obtain ⟨other, there, same⟩ :=
      (sound.linked place owned.container).mpr ⟨host, live, listed⟩
    have known := alone (place, other) (SlotTable.mem_items.mpr there)
    simp [apart, same] at known
  · rintro alone ⟨place, other⟩ member
    have there := SlotTable.mem_items.mp member
    by_cases same : place = slot
    · simp [same]
    · have apart : owned.container ≠ other.container := by
        intro shared
        obtain ⟨listing, known, listed⟩ := sound.housed there
        rw [← shared, live] at known
        cases known
        exact alone place (ContainerSlot.mem_without.mpr ⟨listed, same⟩)
      simp [same, apart]

/-- The calls by which a group is given up; its container goes with the last group. -/
def groupReleases (group container : Int) (last : Bool) : List (Operation × Int) :=
  (.unsetContainer, group) ::
    ((if last then [(.closeKind .container, container)] else []) ++ [(.closeKind .group, group)])

theorem Result.failure?_eq_none_iff {result : Result Unit} :
    result.failure? = none ↔ result = .ok () := by
  cases result with
  | ok _ => exact iff_of_true rfl rfl
  | error _ => exact iff_of_false nofun nofun

theorem Result.failure?_first (results : List (Result Unit)) :
    (Result.first results).failure? = results.findSome? Result.failure? := by
  induction results with
  | nil => rfl
  | cons result rest ih =>
      cases result with
      | ok _ => exact ih
      | error failure => rfl

namespace Journal.Given

variable {gate : Gate} {start journal : Journal Simulator} {done : List (Operation × Int)}
  {platform : Platform (Journal Simulator) HostAddress} {pool : Pool} {handle : GroupHandle}
  {owned : GroupSlot} {host : ContainerSlot}

theorem leave (given : start.Given gate done journal) (attempts : platform.Attempts gate)
    (sound : pool.Sound) (houses : pool.Houses handle owned host) {left : Pool}
    (live : at? left.containers owned.container = some host)
    (opened : start.world.descriptors[host.descriptor.number]? = some (.container true))
    (apart : ∀ kind, (Operation.closeKind kind, host.descriptor.number) ∉ done) :
    (left.leave platform owned.container handle.slot).Yields journal fun outcome after =>
      outcome.1.failure? =
          (if pool.isLast handle.slot then gate.refusal? (.closeKind .container) else none) ∧
        start.Given gate (done ++ if pool.isLast handle.slot then
          [(.closeKind .container, host.descriptor.number)] else []) after := by
  have found := (Pool.at?_of_held? houses.held).1
  unfold Pool.leave
  rw [live]
  dsimp only
  by_cases last : pool.isLast handle.slot = true
  · have empty : (host.members.filter fun member => member != handle.slot).isEmpty = true :=
      List.isEmpty_iff.mpr ((sound.isLast_iff found houses.live).mp last)
    rw [if_pos empty, last, if_pos rfl, if_pos rfl]
    refine Logged.Yields.andThen (given.close attempts opened apart) ?_
    exact fun _ after known => Logged.Yields.pure known
  · have inhabited : ¬ (host.members.filter fun member => member != handle.slot).isEmpty = true :=
      fun empty => last ((sound.isLast_iff found houses.live).mpr (List.isEmpty_iff.mp empty))
    rw [if_neg inhabited, if_neg last, if_neg last, List.append_nil]
    exact Logged.Yields.pure ⟨rfl, given⟩

theorem releaseGroup (given : start.Given gate done journal) (attempts : platform.Attempts gate)
    (sound : pool.Sound) (houses : pool.Houses handle owned host)
    (grouped : ∃ group,
      start.world.descriptors[owned.descriptor.number]? = some (.group group))
    (opened : start.world.descriptors[host.descriptor.number]? = some (.container true))
    (attached :
      start.world.attachments[owned.descriptor.number]? = some host.descriptor.number)
    (untouched : ∀ operation, (operation, owned.descriptor.number) ∉ done)
    (apart : ∀ kind, (Operation.closeKind kind, host.descriptor.number) ∉ done) :
    (pool.release platform handle).Yields journal fun outcome after =>
      outcome.1.failure? = (groupReleases owned.descriptor.number host.descriptor.number
          (pool.isLast handle.slot)).findSome? (fun call => gate.refusal? call.1) ∧
        start.Given gate (done ++ groupReleases owned.descriptor.number host.descriptor.number
          (pool.isLast handle.slot)) after := by
  obtain ⟨group, grouped⟩ := grouped
  unfold Pool.release
  rw [houses.held]
  refine Logged.Yields.andThen (given.unsetContainer attempts attached untouched) ?_
  rintro detached after ⟨first, given⟩
  have live : at? { pool with groups := Pool.SlotTable.clear pool.groups handle.slot }.containers
    owned.container = some host := houses.live
  refine Logged.Yields.andThen (given.leave attempts sound houses live opened ?_) ?_
  · intro kind member
    rcases List.mem_append.mp member with earlier | last
    · exact apart kind earlier
    · cases List.mem_singleton.mp last
  rintro ⟨left, remaining⟩ after ⟨second, given⟩
  refine Logged.Yields.andThen (given.close attempts grouped ?_) ?_
  · intro kind member
    rcases List.mem_append.mp member with earlier | middle
    · rcases List.mem_append.mp earlier with before | first
      · exact untouched _ before
      · cases List.mem_singleton.mp first
    · split at middle
      · have same := congrArg Prod.snd (List.mem_singleton.mp middle)
        rw [show owned.descriptor.number = host.descriptor.number from same, opened] at grouped
        cases grouped
      · cases middle
  rintro closed after ⟨third, given⟩
  refine Logged.Yields.pure ⟨?_, ?_⟩
  · rw [Result.failure?_first, groupReleases]
    simp only [List.findSome?_cons, List.findSome?_nil, first, second, third]
    cases pool.isLast handle.slot <;> rfl
  · rw [groupReleases]
    simpa only [List.append_assoc, List.cons_append, List.nil_append] using given

end Journal.Given

/-! ### Giving up a session -/

def Session.releases (session : Session HostAddress) (accelerator : DeviceFd) :
    List (Operation × Int) :=
  (.closeKind .device, accelerator.number) ::
    (.closeKind .device, session.containerDevice.number) ::
      groupReleases session.group.descriptor.number session.group.container.number
        (session.pool.isLast session.group.slot)

structure GroupSlot.Stands (owned : GroupSlot) (host : ContainerSlot) (sim : Simulator) :
    Prop where
  group : sim.descriptors[owned.descriptor.number]? = some (.group owned.group)
  container : sim.descriptors[host.descriptor.number]? = some (.container true)
  attached : sim.attachments[owned.descriptor.number]? = some host.descriptor.number

namespace Journal.Given

variable {gate : Gate} {start : Journal Simulator}
  {platform : Platform (Journal Simulator) HostAddress} {session : Session HostAddress}
  {accelerator : DeviceFd} {owned : GroupSlot} {host : ContainerSlot} {own container : String}

/-- Every call is attempted, and the first refusal is reported. -/
theorem releaseSession (attempts : platform.Attempts gate) (orderly : start.world.Orderly)
    (fitted : session.Fitted accelerator) (sound : session.pool.Sound)
    (houses : session.pool.Houses session.group owned host)
    (placed : session.group.container = host.descriptor)
    (bound : start.world.descriptors[accelerator.number]? = some (.device own))
    (opened : start.world.descriptors[session.containerDevice.number]? =
      some (.device container))
    (apart : accelerator.number ≠ session.containerDevice.number)
    (stands : owned.Stands host start.world) :
    (session.release platform).Yields start fun outcome after =>
      outcome.1.failure? =
          (session.releases accelerator).findSome? (fun call => gate.refusal? call.1) ∧
        outcome.2.released = true ∧ outcome.2.portal = session.portal ∧
        start.Given gate (session.releases accelerator) after := by
  -- A number that stands for a group or a container is not one that stands for a device.
  have elsewhere {number : Int} {object : OpenObject}
      (known : start.world.descriptors[number]? = some object)
      (other : ∀ name, object ≠ .device name) (operation : Operation) :
      (operation, number) ∉ [(Operation.closeKind .device, accelerator.number),
        (Operation.closeKind .device, session.containerDevice.number)] := by
    intro member
    rcases List.mem_cons.mp member with first | member
    · cases (congrArg Prod.snd first : number = _)
      exact other own (Option.some.inj (known.symm.trans bound))
    · cases (congrArg Prod.snd (List.mem_singleton.mp member) : number = _)
      exact other container (Option.some.inj (known.symm.trans opened))
  have ungrouped := elsewhere stands.group (by rintro _ ⟨⟩)
  have unhoused := elsewhere stands.container (by rintro _ ⟨⟩)
  have named := (Pool.at?_of_held? houses.held).2.2
  rw [fitted.release_eq, Session.releaseOpen]
  refine Logged.Yields.andThen ((refl gate orderly).close attempts bound fun _ => List.not_mem_nil)
    ?_
  rintro first closed ⟨told, given⟩
  refine Logged.Yields.andThen (given.close attempts opened ?_) ?_
  · intro kind member
    exact apart (congrArg Prod.snd (List.mem_singleton.mp member)).symm
  rintro second shut ⟨said, given⟩
  refine Logged.Yields.andThen (given.releaseGroup attempts sound houses ⟨_, stands.group⟩
    stands.container stands.attached ungrouped fun kind => unhoused (.closeKind kind)) ?_
  rintro ⟨third, left⟩ after ⟨known, given⟩
  refine Logged.Yields.pure ⟨?_, rfl, rfl, ?_⟩
  · rw [Result.failure?_first, Session.releases, placed, ← named]
    simp only [List.findSome?_cons, List.findSome?_nil, told, said, known]
    generalize List.findSome? _ (groupReleases _ _ _) = rest
    cases gate.refusal? (.closeKind .device) <;> cases rest <;> rfl
  · rw [Session.releases, placed, ← named]
    exact given

end Journal.Given

end Passthrough
