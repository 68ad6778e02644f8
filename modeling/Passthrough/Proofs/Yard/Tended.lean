import Passthrough.Proofs.Journal.Minding
import Passthrough.Proofs.Session.Keeps
import Passthrough.Proofs.Stock.SessionStart
import Passthrough.Proofs.Yard.Basic

set_option autoImplicit false

/-! What every action in a yard preserves. The machine holds at least what the pools and the
sessions say they hold, each thing for one of them; every call so far was in order; the
sessions are between operations; and any law of the tile goes on to hold that the calls of
the action do not break. What was left behind by closes that the gate refused is not
listed anywhere, and nothing speaks of it again. -/

namespace Passthrough

open Files (FileTree)

/-- A call that breaks no law of the tile. -/
def Call.Obeys (call : Call) (law : Tile → Prop) : Prop :=
  ∀ sim : Simulator, law sim.tile → law (sim.serve call).2.tile

theorem Call.obeys_of_spares {call : Call} (spares : call.spares = true) (law : Tile → Prop) :
    call.Obeys law := by
  intro sim holds
  rw [Simulator.tile_serve_of_spares spares]
  exact holds

/-- A live session, between operations, on the tile of some attributes. -/
structure Live.Fit (attributes : TileAttributes) (live : Live) : Prop where
  pool : live.session.pool.Sound
  handle : live.session.pool.HasHandle live.session.group
  fitted : ∃ accelerator, live.session.Fitted accelerator
  own : live.session.devices.accelerator.hardwareId = attributes.id

namespace Live.Fit

variable {attributes : TileAttributes} {live : Live}

theorem atRest (fit : live.Fit attributes) : live.session.AtRest := by
  obtain ⟨accelerator, fitted⟩ := fit.fitted
  exact fitted.atRest

theorem container_mem (fit : live.Fit attributes) :
    (live.session.dma.container.number, .container true) ∈ live.stock.descriptors := by
  obtain ⟨accelerator, fitted⟩ := fit.fitted
  obtain ⟨owned, host, houses, same⟩ := fit.handle
  rw [fitted.dma, show (DmaSpace.make live.session.group.container _).container = _ from same]
  have listed : Pool.containerEntry (owned.container, host) ∈ live.session.pool.descriptors :=
    List.mem_append_left _
      (List.mem_map_of_mem (Pool.SlotTable.mem_items.mpr houses.live))
  exact List.mem_append_right _ (List.mem_cons_of_mem _ listed)

theorem source_mem (fit : live.Fit attributes) :
    (live.session.dma.interruptSource.number, .device live.container.text) ∈
      live.stock.descriptors := by
  obtain ⟨accelerator, fitted⟩ := fit.fitted
  rw [fitted.dma]
  exact List.mem_append_right _ List.mem_cons_self

end Live.Fit

namespace Yard

/-- The machine holds what an inventory lists, and its journal is in order. -/
def Holds (base : Simulator) (law : Tile → Prop) (inventory : Inventory)
    (journal : Journal Simulator) : Prop :=
  Stocked True base inventory journal.world ∧ journal.Sound law

variable {base : Simulator} {law : Tile → Prop} {inventory others : Inventory}
  {journal : Journal Simulator} {yard : Yard}

theorem hosts (yard : Yard) :
    yard.platform.Hosts Journal.world yard.files
      fun operation => False ∨ yard.gate.denies operation = true :=
  yard.gate.hosts_inFront (Simulator.hosts_platform yard.files).journaled

theorem minds (yard : Yard) (law : Tile → Prop) :
    yard.platform.Minds Journal.world (Journal.Sound law) fun call => call.Obeys law :=
  yard.gate.minds_inFront (Simulator.minds_journaled yard.files fun _ obeys => obeys)

theorem kept (yard : Yard) (base : Simulator) (law : Tile → Prop) :
    Inventory.Kept False (Holds base law) yard.platform :=
  (yard.hosts.keepsStock (fun _ _ => trivial) base).minding (yard.minds law) Stocked.present

theorem Holds.beside (holds : Holds base law (inventory.beside others) journal) :
    Holds base law others journal :=
  ⟨holds.1.part trivial (Inventory.part_beside inventory others), holds.2⟩

theorem keeps_request (yard : Yard) (base : Simulator) (inventory : Inventory)
    (portal : HostAddress) {call : Call} (obeys : call.Obeys law) :
    (yard.platform.request portal call).Keeps (Holds base law inventory) := by
  rintro journal ⟨stocked, sound⟩
  refine ((yard.hosts.request portal call journal).and
    ((yard.minds law).request sound portal obeys)).mono ?_
  rintro result after ⟨⟨-, portals, reached⟩, sound⟩
  refine ⟨?_, sound⟩
  rw [reached]
  exact stocked.talks trivial ((Simulator.serve_change journal.world call).withPortals portals)

theorem yields_probe (yard : Yard) (session : Session HostAddress)
    (holds : Holds base law inventory journal) :
    (session.probe yard.platform).Yields journal fun result after => result.Either
      (fun _ => Holds base law inventory after ∧
        session.devices.accelerator.hardwareId = base.tile.attributes.id)
      (Holds base law inventory after) := by
  have keeps : (session.probe yard.platform).Keeps (Holds base law inventory) :=
    Session.keeps_probe fun call spares =>
      yard.keeps_request base inventory session.portal (Call.obeys_of_spares spares law)
  refine ((yard.hosts.probe session journal).and (keeps journal holds)).mono ?_
  rintro result after ⟨⟨-, known⟩, held⟩
  cases result with
  | ok _ => exact ⟨held, known.1.trans (congrArg TileAttributes.id holds.1.attributes)⟩
  | error failure => exact held

/-- A load gives back what it takes, except where the gate refuses. -/
theorem yields_load (yard : Yard) {live : Live} {attributes : TileAttributes}
    (fit : live.Fit attributes)
    (listed : ∀ entry ∈ live.stock.descriptors, entry ∈ inventory.descriptors)
    (obeys : ∀ call : Call, call.sparesTime = true → call.Obeys law)
    (holds : Holds base law inventory journal) (request : LoadRequest) :
    (live.session.load yard.platform yard.files request).Yields journal fun outcome after =>
      Holds base law inventory after ∧ outcome.2 = live.session := by
  obtain ⟨stocked, sound⟩ := holds
  have present {ledger : Ledger} {reached : Journal Simulator}
      (custody : Custody (fun operation => False ∨ yard.gate.denies operation = true)
        live.session.dma.container journal.world ledger reached.world) :
      ledger.Present live.session.dma reached.world :=
    custody.present (stocked.descriptors.has _ (listed _ fit.container_mem))
      (stocked.descriptors.has _ (listed _ fit.source_mem))
  have kept (plan : LoadPlan) :=
    (yard.hosts.kept live.session request plan journal.world).minding (yard.minds law) obeys
      present
  have start : Custody (fun operation => False ∨ yard.gate.denies operation = true)
      live.session.dma.container journal.world (Ledger.start 0 0 0 .resetDone) journal.world :=
    .start stocked.orderly.fresh 0 0 0 .resetDone
  refine (Account.load_bare kept fit.atRest ⟨start, sound⟩).mono ?_
  rintro outcome after ⟨⟨last, bare, custody, sound⟩, same⟩
  refine ⟨⟨stocked.grown trivial sound.orderly ?_ ?_ ?_ ?_, sound⟩, same⟩
  · exact custody.descriptors.keeps
  · exact custody.attachments
  · exact custody.mappings.keeps
  · exact custody.attributes

theorem yields_operate (yard : Yard) {live : Live} {attributes : TileAttributes}
    (fit : live.Fit attributes)
    (listed : ∀ entry ∈ live.stock.descriptors, entry ∈ inventory.descriptors)
    (task : Tool.Task) (obeys : ∀ call, task.Calls call → call.Obeys law)
    (holds : Holds base law inventory journal) :
    (task.operate yard.platform yard.files live.session).Yields journal fun outcome after =>
      Holds base law inventory after ∧ outcome.2 = live.session := by
  have asks (call : Call) (made : task.Calls call) :=
    yard.keeps_request base inventory live.session.portal (obeys call made)
  cases task with
  | load request => exact yard.yields_load fit listed obeys holds request
  | _ =>
      exact Session.keeps_operate fit.atRest.withToken_none yard.files (by rintro _ ⟨⟩) asks holds

structure Tended (base : Simulator) (law : Tile → Prop) (yard : Yard) : Prop where
  holds : Holds base law yard.inventory yard.journal
  pools : ∀ pool ∈ yard.pools, pool.Sound
  lives : ∀ live ∈ yard.lives, live.Fit base.tile.attributes

def Action.Calls : Action → Call → Prop
  | .operate _ task, call => task.Calls call
  | _, call => call.spares = true

namespace Tended

variable {index : Nat} {pool : Pool} {live : Live} {α : Type}

theorem holds_pool (tended : Tended base law yard) (found : yard.pools[index]? = some pool) :
    Holds base law (pool.stock.beside (.collect (yard.pools.eraseIdx index) yard.lives))
      yard.journal :=
  (yard.kept base law).perm tended.holds (Inventory.collect_select_pool found yard.lives)

theorem holds_live (tended : Tended base law yard) (found : yard.lives[index]? = some live) :
    Holds base law (live.stock.beside (.collect yard.pools (yard.lives.eraseIdx index)))
      yard.journal :=
  (yard.kept base law).perm tended.holds (Inventory.collect_select_live yard.pools found)

theorem use {operation : Pool → Logged (Journal Simulator) (Result α × Pool)}
    (tended : Tended base law yard) (index : Nat)
    (keeps : ∀ pool others journal, pool.Sound →
      Holds base law (pool.stock.beside others) journal →
      (operation pool).Yields journal fun outcome after =>
        outcome.2.Sound ∧ Holds base law (outcome.2.stock.beside others) after) :
    Tended base law (yard.use index operation) := by
  unfold Yard.use
  cases found : yard.pools[index]? with
  | none => exact tended
  | some pool =>
      obtain ⟨sound, holds⟩ := keeps pool _ yard.journal
        (tended.pools pool (List.mem_of_getElem? found)) (tended.holds_pool found) []
      obtain ⟨bound, -⟩ := List.getElem?_eq_some_iff.mp found
      refine { tended with holds := ?_, pools := ?_ }
      · exact (yard.kept base law).perm holds (Inventory.collect_set_pool bound _ yard.lives).symm
      · intro other member
        rcases List.mem_or_eq_of_mem_set member with old | rfl
        · exact tended.pools other old
        · exact sound

theorem openPool (tended : Tended base law yard) (limits : PoolLimits) :
    Tended base law (yard.step (.openPool limits)) := by
  refine { tended with holds := ?_, pools := ?_ }
  · exact (yard.kept base law).perm tended.holds
      (Inventory.collect_append_empty yard.pools limits yard.lives).symm
  · intro pool member
    rcases List.mem_append.mp member with old | fresh
    · exact tended.pools pool old
    · cases List.mem_singleton.mp fresh
      exact Pool.sound_empty limits

theorem start (tended : Tended base law yard) (index : Nat) (container : ContainerName) :
    Tended base law (yard.start index container) := by
  unfold Yard.start
  cases found : yard.pools[index]? with
  | none => exact tended
  | some pool =>
      have sound := tended.pools pool (List.mem_of_getElem? found)
      have pools (other : Pool) (member : other ∈ yard.pools.eraseIdx index) : other.Sound :=
        tended.pools other (List.mem_of_mem_eraseIdx member)
      have course := (yard.kept base law).startsBeside sound (tended.holds_pool found) container
        (fun _ => True) (fun _ _ _ => trivial)
        (fun accelerator session after => Holds base law ((session.pool.stock.beside
            (.collect (yard.pools.eraseIdx index) yard.lives)).withDevices container session
              accelerator) after ∧
          session.devices.accelerator.hardwareId = base.tile.attributes.id)
        (fun accelerator session reached holds => yard.yields_probe session holds) []
      dsimp only
      generalize (Session.start yard.platform pool container).outcome ⟨yard.journal, []⟩ = ended
        at course
      obtain ⟨failure | session, left⟩ := ended
      · obtain ⟨remaining, -, -, holds⟩ := course
        exact ⟨holds.beside, pools, tended.lives⟩
      · obtain ⟨sound, handle, -, accelerator, fitted, holds, own⟩ := course
        refine ⟨?_, pools, ?_⟩
        · rw [← Live.stock_beside ⟨container, session⟩ fitted.opened] at holds
          exact (yard.kept base law).perm holds (Inventory.collect_live _ _ _).symm
        · intro live member
          rcases List.mem_cons.mp member with rfl | old
          · exact ⟨sound, handle, ⟨accelerator, fitted⟩, own⟩
          · exact tended.lives live old

theorem operate (tended : Tended base law yard) (index : Nat) (task : Tool.Task)
    (obeys : ∀ call, task.Calls call → call.Obeys law) :
    Tended base law (yard.step (.operate index task)) := by
  change Tended base law (yard.operate index fun session =>
    task.operate yard.platform yard.files session)
  unfold Yard.operate
  cases found : yard.lives[index]? with
  | none => exact tended
  | some live =>
      have fit := tended.lives live (List.mem_of_getElem? found)
      have listed (entry) (member : entry ∈ live.stock.descriptors) :
          entry ∈ yard.inventory.descriptors :=
        (Inventory.collect_select_live yard.pools found).descriptors.symm.subset
          (List.mem_append_left _ member)
      obtain ⟨holds, same⟩ := yard.yields_operate fit listed task obeys tended.holds []
      obtain ⟨bound, known⟩ := List.getElem?_eq_some_iff.mp found
      have unmoved : yard.lives.set index live = yard.lives := by
        rw [← known]
        exact List.set_getElem_self bound
      dsimp only
      rw [same, unmoved]
      exact { tended with holds := holds }

theorem finish (tended : Tended base law yard) (index : Nat)
    (operation : Session HostAddress → Logged (Journal Simulator) α)
    (ends : ∀ (live : Live) others accelerator journal, live.Fit base.tile.attributes →
      live.session.Fitted accelerator →
      Holds base law ((live.session.pool.stock.beside others).withDevices live.container
        live.session accelerator) journal →
      (operation live.session).Yields journal fun _ after =>
        ∃ left : Pool, Holds base law (left.stock.beside others) after) :
    Tended base law (yard.finish index operation) := by
  unfold Yard.finish
  cases found : yard.lives[index]? with
  | none => exact tended
  | some live =>
      have fit := tended.lives live (List.mem_of_getElem? found)
      obtain ⟨accelerator, fitted⟩ := fit.fitted
      have holds := tended.holds_live found
      rw [live.stock_beside fitted.opened] at holds
      obtain ⟨left, holds⟩ := ends live _ accelerator yard.journal fit fitted holds []
      exact ⟨holds.beside, tended.pools, fun other member =>
        tended.lives other (List.mem_of_mem_eraseIdx member)⟩

theorem control (tended : Tended base law yard) (change : Simulator → Simulator)
    (control : Simulator.Control yard.machine (change yard.machine)) :
    Tended base law (yard.control change) := by
  have stocked : Stocked True base yard.inventory (change yard.machine) :=
    Stocked.control tended.holds.1 control
  refine { tended with holds := ⟨stocked, tended.holds.2.proper, stocked.orderly, ?_⟩ }
  obtain ⟨-, groups, faults, apiVersion, same⟩ := control
  change law (change yard.machine).tile
  rw [same]
  exact tended.holds.2.tile

theorem step (tended : Tended base law yard) (action : Action)
    (obeys : ∀ call, action.Calls call → call.Obeys law) : Tended base law (yard.step action) := by
  cases action with
  | openPool limits => exact tended.openPool limits
  | acquire index group =>
      refine tended.use index fun pool others journal sound holds => ?_
      refine ((yard.kept base law).acquiresBeside sound holds group).mono ?_
      exact fun _ _ known => ⟨known.1, known.2.1⟩
  | release index handle =>
      exact tended.use index fun pool others journal sound holds =>
        (yard.kept base law).releasesBeside sound holds handle
  | start index container => exact tended.start index container
  | operate index task => exact tended.operate index task obeys
  | teardown index =>
      refine tended.finish index (Act.outcome <| ·.teardown yard.platform) ?_
      intro live others accelerator journal fit fitted holds
      obtain ⟨left, -, -, ends, -⟩ :=
        (yard.kept base law).endsBeside fit.pool fit.handle fitted holds
      exact ends.mono fun _ _ holds => ⟨left, holds⟩
  | drop index =>
      refine tended.finish index (·.drop yard.platform) ?_
      intro live others accelerator journal fit fitted holds
      obtain ⟨left, -, -, -, ends⟩ :=
        (yard.kept base law).endsBeside fit.pool fit.handle fitted holds
      exact ends.mono fun _ _ holds => ⟨left, holds⟩
  | setGate gate => exact ⟨tended.holds, tended.pools, tended.lives⟩
  | setFiles files => exact ⟨tended.holds, tended.pools, tended.lives⟩
  | inject fault => exact tended.control (·.inject fault) (Simulator.control_inject _ fault)
  | clearFaults => exact tended.control (·.clearFaults) (Simulator.control_clearFaults _)
  | setViable group viable =>
      exact tended.control (·.setViable group viable) (Simulator.control_setViable _ group viable)
  | setApiVersion version =>
      exact tended.control (·.setApiVersion version) (Simulator.control_setApiVersion _ version)

/-- What all actions preserve, and with them any run. -/
theorem run (tended : Tended base law yard) (obeys : ∀ call : Call, call.Obeys law)
    (actions : List Action) : Tended base law (yard.run actions) := by
  induction actions generalizing yard with
  | nil => exact tended
  | cons action rest ih => exact ih (tended.step action fun call _ => obeys call)

/-- A law that the tile keeps now may take the place of another. -/
theorem under (tended : Tended base law yard) {other : Tile → Prop}
    (holds : other yard.machine.tile) : Tended base other yard :=
  { tended with holds := ⟨tended.holds.1, { tended.holds.2 with tile := holds }⟩ }

theorem opened {machine : Simulator} (orderly : machine.Orderly) (holds : law machine.tile)
    (files : FileTree) : Tended machine law (Yard.opened machine files) where
  holds := by
    refine ⟨.refl orderly, ?_, orderly, holds⟩
    intro entry member
    cases member
  pools _ member := by cases member
  lives _ member := by cases member

end Tended

end Yard

end Passthrough
