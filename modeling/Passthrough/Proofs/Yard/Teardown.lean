import Passthrough.Proofs.Journal.Giving
import Passthrough.Proofs.Session.Quiet
import Passthrough.Proofs.Yard.Tended

set_option autoImplicit false

/-! How the sessions of a yard end. Whatever the gate refuses, each call by which a session is
given up is made once; what was not refused is gone, and the portal with it; and what belongs
to other sessions, to other pools and to other groups of its own pool is still there.
A session that is dropped ends in the same way as one that is torn down. -/

namespace Passthrough

open Files (FileTree)
open Pool.SlotTable (at? items)
open Simulator (OpenObject)

theorem Inventory.Present.stands {pool : Pool} {sim : Simulator}
    (present : pool.stock.Present sim) {slot : Nat} {owned : GroupSlot} {host : ContainerSlot}
    (found : at? pool.groups slot = some owned)
    (live : at? pool.containers owned.container = some host) : owned.Stands host sim where
  group := present.descriptors (Pool.groupEntry (slot, owned))
    (List.mem_append_right _ (List.mem_map_of_mem (Pool.SlotTable.mem_items.mpr found)))
  container := present.descriptors (Pool.containerEntry (owned.container, host))
    (List.mem_append_left _ (List.mem_map_of_mem (Pool.SlotTable.mem_items.mpr live)))
  attached := by
    refine present.attachments (owned.descriptor.number, host.descriptor.number) ?_
    refine List.mem_filterMap.mpr ⟨(slot, owned), Pool.SlotTable.mem_items.mpr found, ?_⟩
    exact congrArg (Option.map _) live

theorem Inventory.Present.stands_of_evict {pool : Pool} {slot : Nat} {owned : GroupSlot}
    {host : ContainerSlot} {sim : Simulator} (sound : pool.Sound)
    (live : at? pool.containers owned.container = some host)
    (present : (pool.evict slot owned host).stock.Present sim) {place : Nat} (apart : place ≠ slot)
    {other : GroupSlot} {home : ContainerSlot} (found : at? pool.groups place = some other)
    (housed : at? pool.containers other.container = some home) : other.Stands home sim := by
  have there : at? (pool.evict slot owned host).groups place = some other := by
    rw [Pool.at?_evict_groups, if_neg apart.symm]
    exact found
  by_cases same : owned.container = other.container
  · -- The container has the other group left, so it stays under its descriptor.
    obtain ⟨_, known, listed⟩ := sound.housed found
    rw [← same, live] at known housed
    cases known
    cases housed
    have remaining : (host.without slot).members ≠ [] :=
      List.ne_nil_of_mem (ContainerSlot.mem_without.mpr ⟨listed, apart⟩)
    have kept : at? (pool.evict slot owned host).containers other.container =
        some (host.without slot) := by
      rw [Pool.at?_evict_containers live, if_pos same, if_neg remaining]
    have stands := present.stands there kept
    exact ⟨stands.group, stands.container, stands.attached⟩
  · refine present.stands there ?_
    rw [Pool.at?_evict_containers live, if_neg same]
    exact housed

/-- What a machine is once calls that a gate did not refuse have taken something away, and a
portal was given up. -/
structure Simulator.Rid (gate : Gate) (calls : List (Operation × Int)) (portal : HostAddress)
    (before after : Simulator) : Prop where
  descriptors : Loses (gate.Closes calls) before.descriptors after.descriptors
  attachments : Loses (gate.Detaches calls) before.attachments after.attachments
  registrations : Loses (fun key => gate.Closes calls key.1) before.registrations
    after.registrations
  mappings : after.mappings = before.mappings.erase portal.value
  same : after = { before with
    descriptors := after.descriptors
    attachments := after.attachments
    registrations := after.registrations
    mappings := after.mappings
    portals := before.portals.erase portal.value
    events := after.events }

theorem Journal.Given.rid {gate : Gate} {start journal : Journal Simulator}
    {done : List (Operation × Int)} (given : start.Given gate done journal) (portal : HostAddress) :
    start.world.Rid gate done portal (journal.world.dropPortal portal) where
  descriptors := given.shed.descriptors.congr fun _ => gate.closed_map_entry
  attachments := given.shed.attachments.congr fun _ => gate.detached_map_entry
  registrations := given.shed.registrations.congr fun _ => gate.closed_map_entry
  mappings := by
    change journal.world.mappings.erase portal.value = _
    rw [given.shed.same]
  same := by
    unfold Simulator.dropPortal Simulator.note
    rw [given.shed.same]

namespace Session

/-- However a session ends, it is released and its portal dropped, and the drop that follows
a release makes no call. -/
theorem ends {gate : Gate} {platform : Platform (Journal Simulator) HostAddress}
    (attempts : platform.Attempts gate) {session gone : Session HostAddress}
    {start reached : Traced (Journal Simulator)} {outcome : Result Unit}
    (known : session.release platform start = ((outcome, gone), reached))
    (released : gone.released = true) (portal : gone.portal = session.portal) :
    let left := { reached.world with world := reached.world.world.dropPortal session.portal }
    (gone.drop platform reached).2.world = left ∧
      (∃ log, (session.teardown platform).outcome start = (outcome, ⟨left, log⟩)) ∧
      (session.drop platform start).2.world = left := by
  intro left
  have dropped (log : List Diagnostic) :
      (platform.dropPortal session.portal ⟨reached.world, log⟩).2.world = left :=
    attempts.dropPortal session.portal reached.world log
  have quiet : (gone.drop platform reached).2.world = left := by
    unfold Session.drop Session.release
    rw [if_pos released, pure_bind]
    change (platform.dropPortal gone.portal reached).2.world = left
    rw [portal]
    exact dropped reached.log
  refine ⟨quiet, ⟨(gone.drop platform reached).2.log, ?_⟩, ?_⟩
  · change (session.release platform >>= _) start = _
    rw [Logged.run_bind, known, ← quiet]
    rfl
  · unfold Session.drop
    rw [Logged.run_bind, known]
    dsimp only
    rw [portal]
    cases outcome with
    | ok _ => exact dropped reached.log
    | error failure => exact dropped _

end Session

namespace Inventory.Present

variable {first second : Inventory} {sim : Simulator}

theorem left (present : (first.beside second).Present sim) : first.Present sim :=
  ⟨fun _ member => present.descriptors _ (List.mem_append_left _ member),
    fun _ member => present.attachments _ (List.mem_append_left _ member),
    fun _ member => present.mappings _ (List.mem_append_left _ member)⟩

theorem right (present : (first.beside second).Present sim) : second.Present sim :=
  ⟨fun _ member => present.descriptors _ (List.mem_append_right _ member),
    fun _ member => present.attachments _ (List.mem_append_right _ member),
    fun _ member => present.mappings _ (List.mem_append_right _ member)⟩

end Inventory.Present

/-- A live session can be released from where it stands. -/
theorem Live.Fit.releases {attributes : TileAttributes} {live : Live} (fit : live.Fit attributes)
    {base : Simulator} {others : Inventory} {start : Journal Simulator} {gate : Gate}
    {platform : Platform (Journal Simulator) HostAddress} (attempts : platform.Attempts gate)
    (stocked : Stocked True base (live.stock.beside others) start.world) {accelerator : DeviceFd}
    (fitted : live.session.Fitted accelerator) :
    (live.session.release platform).Yields start fun outcome after =>
      outcome.1.failure? = (live.session.releases accelerator).findSome?
          (fun call => gate.refusal? call.1) ∧
        outcome.2.released = true ∧ outcome.2.portal = live.session.portal ∧
        start.Given gate (live.session.releases accelerator) after := by
  obtain ⟨owned, host, houses, placed⟩ := fit.handle
  rw [live.stock_beside fitted.opened] at stocked
  have present := stocked.present
  have own : live.session.pool.stock.Present start.world :=
    Inventory.Present.left ⟨fun entry member => present.descriptors entry
      (List.mem_cons_of_mem _ (List.mem_cons_of_mem _ member)), present.attachments,
      fun entry member => present.mappings entry (List.mem_cons_of_mem _ member)⟩
  have apart : accelerator.number ≠ live.session.containerDevice.number := fun same =>
    (List.nodup_cons.mp stocked.descriptors.distinct).1 (List.mem_cons.mpr (Or.inl same))
  exact Journal.Given.releaseSession attempts stocked.orderly fitted fit.pool houses placed
    (present.descriptors _ List.mem_cons_self)
    (present.descriptors _ (List.mem_cons_of_mem _ List.mem_cons_self)) apart
    (own.stands (Pool.at?_of_held? houses.held).1 houses.live)

/-- What is beside a live session, in its own pool and elsewhere, outlasts it. -/
theorem Live.Fit.outlasted {attributes : TileAttributes} {live : Live} (fit : live.Fit attributes)
    {base : Simulator} {others : Inventory} {World : Type} {machine : World → Simulator}
    {world : World} {strange : Prop} {platform : Platform World HostAddress}
    (kept : Inventory.Kept strange
      (fun inventory world => Stocked True base inventory (machine world)) platform)
    (stocked : Stocked True base (live.stock.beside others) (machine world)) :
    (live.session.teardown platform).Yields world fun _ after =>
      others.Present (machine after) ∧
        ∀ place owned host, place ≠ live.session.group.slot →
          at? live.session.pool.groups place = some owned →
            at? live.session.pool.containers owned.container = some host →
              owned.Stands host (machine after) := by
  obtain ⟨accelerator, fitted⟩ := fit.fitted
  obtain ⟨owned, host, houses, -⟩ := fit.handle
  rw [live.stock_beside fitted.opened] at stocked
  have whole := (fit.pool.stock_beside houses others).withDevices live.container live.session
    accelerator
  refine (kept.tearsDown fitted houses (stocked.perm whole)).mono fun _ after stocked => ?_
  have left := stocked.present
  exact ⟨left.right, fun place other home apart found housed =>
    left.left.stands_of_evict fit.pool houses.live apart found housed⟩

namespace Yard

/-- The machine behind the gate of a yard, with a journal in front of both: it shows what is
attempted, and what was refused. -/
def front (yard : Yard) : Platform (Journal Simulator) HostAddress :=
  (yard.gate.inFront (Simulator.platform yard.files)).journaled

def released (yard : Yard) (live : Live) (log : List Diagnostic) :
    (Result Unit × Session HostAddress) × Traced (Journal Simulator) :=
  live.session.release yard.front ⟨.opened yard.machine, log⟩

def torn (yard : Yard) (live : Live) (log : List Diagnostic) :
    Result Unit × Traced (Journal Simulator) :=
  (live.session.teardown yard.front).outcome ⟨.opened yard.machine, log⟩

/-- What the end of a live session comes to. -/
structure Ends (yard : Yard) (index : Nat) (live : Live) (accelerator : DeviceFd)
    (log : List Diagnostic) : Prop where
  bound : live.session.devices.accelerator.descriptor = some accelerator
  /-- Every call is made once, in order, and fails just where it is refused. -/
  calls : (yard.torn live log).2.world.calls =
    (live.session.releases accelerator).map yard.gate.entry
  failure : (yard.torn live log).1.failure? =
    (live.session.releases accelerator).findSome? fun call => yard.gate.refusal? call.1
  succeeds : (yard.torn live log).1 = .ok () ↔
    ∀ call ∈ live.session.releases accelerator, yard.gate.denies call.1 = false
  rid : yard.machine.Rid yard.gate (live.session.releases accelerator) live.session.portal
    (yard.torn live log).2.world.world
  /-- All other pools and sessions have what they had. -/
  others : (Inventory.collect yard.pools (yard.lives.eraseIdx index)).Present
    (yard.torn live log).2.world.world
  /-- So have the other groups of its own pool. -/
  groups : ∀ place owned host, place ≠ live.session.group.slot →
    at? live.session.pool.groups place = some owned →
      at? live.session.pool.containers owned.container = some host →
        owned.Stands host (yard.torn live log).2.world.world
  /-- Going out of use after the release takes the portal away, and makes no call. -/
  quiet : ((yard.released live log).1.2.drop yard.front (yard.released live log).2).2.world =
    { (yard.released live log).2.world with
      world := (yard.released live log).2.world.world.dropPortal live.session.portal }
  /-- A drop leaves what a teardown leaves. -/
  dropped : (live.session.drop yard.front ⟨.opened yard.machine, log⟩).2.world =
    (yard.torn live log).2.world

theorem Tended.ends {base : Simulator} {law : Tile → Prop} {yard : Yard}
    (tended : Tended base law yard) {index : Nat} {live : Live}
    (found : yard.lives[index]? = some live) (log : List Diagnostic) :
    ∃ accelerator, yard.Ends index live accelerator log := by
  let start : Traced (Journal Simulator) := ⟨.opened yard.machine, log⟩
  have fit := tended.lives live (List.mem_of_getElem? found)
  obtain ⟨accelerator, fitted⟩ := fit.fitted
  have stocked : Stocked True base (live.stock.beside
      (.collect yard.pools (yard.lives.eraseIdx index))) start.world.world :=
    (tended.holds_live found).1
  have hosts : yard.front.Hosts Journal.world yard.files
      fun operation => False ∨ yard.gate.denies operation = true :=
    (yard.gate.hosts_inFront (Simulator.hosts_platform yard.files)).journaled
  have attempts : yard.front.Attempts yard.gate := yard.gate.attempts_journaled yard.files
  obtain ⟨failure, gone, portal, given⟩ := fit.releases attempts stocked fitted log
  have known : live.session.release yard.front start = (((yard.released live log).1.1,
    (yard.released live log).1.2), (yard.released live log).2) := rfl
  obtain ⟨quiet, ⟨final, ended⟩, dropped⟩ := Session.ends attempts known gone portal
  have reached : yard.torn live log = ((yard.released live log).1.1, ⟨_, final⟩) := ended
  obtain ⟨others, groups⟩ :=
    fit.outlasted (hosts.keepsStock (fun _ _ => trivial) base) stocked log
  refine ⟨accelerator, fitted.opened, ?_, ?_, ?_, ?_, others, groups, quiet, ?_⟩
  all_goals rw [reached]
  · exact given.calls
  · exact failure
  · rw [← yard.gate.findSome?_refusal?_eq_none_iff, ← Result.failure?_eq_none_iff]
    exact iff_of_eq (congrArg (· = none) failure)
  · exact given.rid live.session.portal
  · exact dropped

/-- Whatever is refused, a session gives up all that it holds, each thing by a call of its own;
and a session that is dropped leaves what one leaves that is torn down. -/
theorem run_gives_up_once (machine : Simulator) (reachable : machine.Reachable) (files : FileTree)
    (actions : List Action) (gate : Gate) (index : Nat) (live : Live) (log : List Diagnostic) :
    let yard := { (opened machine files).run actions with gate := gate }
    yard.lives[index]? = some live → ∃ accelerator, yard.Ends index live accelerator log := by
  intro yard found
  have tended : Tended machine (fun _ => True) ((opened machine files).run actions) :=
    (Tended.opened reachable.orderly trivial files).run (fun _ _ => id) actions
  have gated : Tended machine (fun _ => True) yard := ⟨tended.holds, tended.pools, tended.lives⟩
  exact gated.ends found log

/-- Where detaching is refused, it is reported; the group is closed all the same, and its
attachment goes with it. -/
theorem run_gives_up_once_of_refused_detach :
    let actions : List Action := [.openPool .standard, .start 0 .standard]
    let gate := Gate.allow.refuse .unsetContainer
    let yard := { (opened (Tool.demonstration .standard) ⟨[], []⟩).run actions with gate := gate }
    ∃ live, yard.lives[0]? = some live ∧
      (yard.torn live []).1.failure? =
        some (.kernel "unset_container" (.numbered .notPermitted)) ∧
      (yard.torn live []).2.world.world.attachments[live.session.group.descriptor.number]? =
        none := by
  intro actions gate yard
  have gives (live : Live) (found : yard.lives[0]? = some live) :
      ∃ accelerator, yard.Ends 0 live accelerator [] :=
    run_gives_up_once _ (Simulator.reachable_demonstration .standard) ⟨[], []⟩ actions gate 0 live
      [] found
  have started : (yard.lives[0]?).isSome = true := by decide +kernel
  have refused : yard.gate = gate := rfl
  clear_value yard
  obtain ⟨live, found⟩ := Option.isSome_iff_exists.mp started
  obtain ⟨accelerator, ends⟩ := gives live found
  have closed : yard.gate.Closes (live.session.releases accelerator)
      live.session.group.descriptor.number := by
    rw [refused]
    refine ⟨.group, ?_, rfl⟩
    simp [Session.releases, groupReleases]
  refine ⟨live, found, ?_, ends.rid.attachments.gone _ (Or.inr closed)⟩
  rw [ends.failure, refused]
  rfl

end Yard

end Passthrough
