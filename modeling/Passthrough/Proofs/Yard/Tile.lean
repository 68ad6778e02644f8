import Passthrough.Proofs.Session.TileChannel
import Passthrough.Proofs.Yard.Tended

set_option autoImplicit false

/-! The tile under the sessions of a yard. Whichever session sets the time or resets the tile,
it does so unless one of two faults is injected, and nothing else that can happen in a yard
sets the time; a load may change the state. What any session reports of the tile is what
the tile is. -/

namespace Passthrough

open Files (FileTree)

/-- A tile that may have come of another by calls to its firmware. -/
structure Tile.Stems (first tile : Tile) : Prop where
  attributes : tile.attributes = first.attributes
  serviceLayer : tile.serviceLayer = first.serviceLayer
  /-- A state that can be read from a word is never followed by one that cannot. -/
  readable : TileState.ofWord first.state.word = first.state →
    TileState.ofWord tile.state.word = tile.state

theorem Call.obeys_stems (call : Call) (first : Tile) : call.Obeys (Tile.Stems first) := by
  intro sim stems
  obtain ⟨_, _, answers⟩ := sim.exists_answers call
  rw [answers.tile_serve]
  cases answers with
  | reset | load | run => exact { stems with readable := fun _ => rfl }
  | setTimeOfDay => exact { stems with }
  | _ => exact stems

/-- What a task makes of the tile of a machine. -/
def Tool.Task.Retiles (task : Task) (sim : Simulator) (after : Tile) : Prop :=
  match task with
  | .setTimeOfDay time =>
      after = if sim.has .firmwareOpen || sim.has .setTimeOfDay then sim.tile
        else { sim.tile with timeOfDay := time }
  | .reset =>
      after = if sim.has .firmwareOpen || sim.has .reset then sim.tile
        else { sim.tile with state := .resetDone }
  | .load _ => ∃ state, after = { sim.tile with state := state }
  | .status => after = sim.tile
  | .timeOfDay => after = sim.tile

namespace Yard

/-- What an action makes of the tile; only tasks can change it. -/
def Retiles (yard : Yard) (action : Action) (after : Tile) : Prop :=
  match action with
  | .operate index task =>
      match yard.lives[index]? with
      | none => after = yard.machine.tile
      | some _ => task.Retiles yard.machine after
  | _ => after = yard.machine.tile

theorem Retiles.of_task {yard : Yard} {index : Nat} {task : Tool.Task} {after : Tile}
    (retiles : yard.Retiles (.operate index task) after)
    (found : (yard.lives[index]?).isSome = true) : task.Retiles yard.machine after := by
  obtain ⟨live, known⟩ := Option.isSome_iff_exists.mp found
  unfold Retiles at retiles
  dsimp only at retiles
  rw [known] at retiles
  exact retiles

namespace Tended

variable {base : Simulator} {law : Tile → Prop} {yard : Yard} {live : Live}

theorem own (tended : Tended base law yard) (member : live ∈ yard.lives) :
    live.session.devices.accelerator.hardwareId = yard.machine.tile.attributes.id :=
  (tended.lives live member).own.trans
    (congrArg TileAttributes.id tended.holds.1.attributes).symm

theorem tile_step (tended : Tended base law yard) {action : Action}
    (spares : ∀ call, action.Calls call → call.spares = true) :
    (yard.step action).machine.tile = yard.machine.tile := by
  have still : Tended base (· = yard.machine.tile) yard := tended.under rfl
  exact (still.step action fun call made => Call.obeys_of_spares (spares call made) _).holds.2.tile

theorem tile_step_of_load (tended : Tended base law yard) (index : Nat) (request : LoadRequest) :
    ∃ state, (yard.step (.operate index (.load request))).machine.tile =
      { yard.machine.tile with state := state } := by
  have still : Tended base (fun tile => ∃ state, tile = { yard.machine.tile with state := state })
      yard := tended.under ⟨yard.machine.tile.state, rfl⟩
  refine (still.step _ fun call spares sim => ?_).holds.2.tile
  rintro ⟨state, known⟩
  obtain ⟨next, served⟩ := Simulator.tile_serve_of_sparesTime spares sim
  exact ⟨next, by rw [served, known]⟩

theorem step_operate {index : Nat} (found : yard.lives[index]? = some live) (task : Tool.Task) :
    (yard.step (.operate index task)).journal =
      (task.operate yard.platform yard.files live.session ⟨yard.journal, []⟩).2.world := by
  change (yard.operate index fun session =>
    task.operate yard.platform yard.files session).journal = _
  unfold Yard.operate
  rw [found]

theorem retiles_task (tended : Tended base law yard) {index : Nat}
    (found : yard.lives[index]? = some live) (task : Tool.Task) :
    task.Retiles yard.machine (yard.step (.operate index task)).machine.tile := by
  have own := tended.own (List.mem_of_getElem? found)
  have reached := congrArg (fun journal => journal.world.tile) (step_operate found task)
  cases task with
  | load request => exact tended.tile_step_of_load index request
  | status => exact tended.tile_step fun call spares => spares
  | timeOfDay => exact tended.tile_step fun call spares => spares
  | reset => exact reached.trans (yard.hosts.changes_reset live.session own [])
  | setTimeOfDay time =>
      exact reached.trans (yard.hosts.changes_setTimeOfDay live.session time own [])

theorem retiles (tended : Tended base law yard) (action : Action) :
    yard.Retiles action (yard.step action).machine.tile := by
  cases action with
  | operate index task =>
      unfold Retiles
      dsimp only
      split
      · next none =>
          change (yard.operate index fun session =>
            task.operate yard.platform yard.files session).machine.tile = _
          unfold Yard.operate
          rw [none]
      · next live found => exact tended.retiles_task found task
  | _ => exact tended.tile_step fun call spares => spares

end Tended

/-- What a session can learn of the tile, and of what it did to it. -/
structure Reports (yard : Yard) (live : Live) (log : List Diagnostic) : Prop where
  status : ∀ report, (live.session.status yard.platform ⟨yard.journal, log⟩).1.1 = .ok report →
    report = yard.machine.tile.status
  timeOfDay : ∀ time, (live.session.timeOfDay yard.platform ⟨yard.journal, log⟩).1.1 = .ok time →
    time = yard.machine.tile.timeOfDay
  /-- Where closing fails the operation fails, although it has taken effect. -/
  setTimeOfDay : yard.machine.has .firmwareClose = true → ∀ time, ∃ failure,
    (live.session.setTimeOfDay yard.platform time ⟨yard.journal, log⟩).1.1 = .error failure
  reset : yard.machine.has .firmwareClose = true → ∃ failure,
    (live.session.reset yard.platform ⟨yard.journal, log⟩).1.1 = .error failure

theorem reports (yard : Yard) (live : Live) (log : List Diagnostic) : yard.Reports live log where
  status := yard.hosts.reports_status live.session yard.journal log
  timeOfDay := yard.hosts.reports_timeOfDay live.session yard.journal log
  setTimeOfDay fault time := yard.hosts.fails_setTimeOfDay live.session time fault log
  reset fault := yard.hosts.fails_reset live.session fault log

/-- Any run of any number of sessions is a run of one tile. Every action makes of it what it
should, its attributes and its service layer never change, and reports are true of it: they
give its state by its word, and so the state itself, unless the tile was made with an unknown
state that has the word of a known one. -/
theorem run_refines_tile (machine : Simulator) (reachable : machine.Reachable) (files : FileTree)
    (actions : List Action) :
    let yard := (opened machine files).run actions
    let tile := yard.machine.tile
    (∀ action, yard.Retiles action (yard.step action).machine.tile) ∧
      tile.attributes = machine.tile.attributes ∧
      tile.serviceLayer = machine.tile.serviceLayer ∧
      (∀ live ∈ yard.lives, ∀ log, yard.Reports live log) ∧
      tile.status.state.word = tile.state.word ∧
      (TileState.ofWord machine.tile.state.word = machine.tile.state →
        tile.status = { attributes := tile.attributes
                        serviceLayer := tile.serviceLayer
                        state := tile.state }) := by
  intro yard tile
  have tended : Tended machine (Tile.Stems machine.tile) yard :=
    (Tended.opened reachable.orderly ⟨rfl, rfl, id⟩ files).run (Call.obeys_stems · machine.tile)
      actions
  have stems := tended.holds.2.tile
  refine ⟨tended.retiles, stems.attributes, stems.serviceLayer,
    fun live _ log => yard.reports live log, TileState.word_ofWord _, fun readable => ?_⟩
  exact congrArg (TileStatus.mk tile.attributes tile.serviceLayer) (stems.readable readable)

/-- A time that is set takes effect also where the firmware session cannot be closed, although
the operation fails. -/
theorem run_refines_tile_of_failed_close :
    let actions : List Action := [.openPool .standard, .start 0 .standard, .inject .firmwareClose]
    let yard := (opened (Tool.demonstration .standard) ⟨[], []⟩).run actions
    let set : Action := .operate 0 (.setTimeOfDay 7)
    (yard.step set).machine.tile = { Tile.fresh with timeOfDay := 7 } ∧
      ∀ live ∈ yard.lives, ∃ failure,
        (live.session.setTimeOfDay yard.platform 7 ⟨yard.journal, []⟩).1.1 = .error failure := by
  intro actions yard set
  have refines := run_refines_tile _ (Simulator.reachable_demonstration .standard) ⟨[], []⟩ actions
  have retiles : ∀ action, yard.Retiles action (yard.step action).machine.tile := refines.1
  have reports : ∀ live ∈ yard.lives, ∀ log, yard.Reports live log := refines.2.2.2.1
  have started : (yard.lives[0]?).isSome = true := by decide +kernel
  have plain : (yard.machine.has .firmwareOpen || yard.machine.has .setTimeOfDay) = false := by
    decide +kernel
  have fault : yard.machine.has .firmwareClose = true := by decide +kernel
  have fresh : yard.machine.tile = Tile.fresh := by decide +kernel
  clear_value yard
  refine ⟨?_, fun live member => (reports live member []).setTimeOfDay fault 7⟩
  refine ((retiles set).of_task started).trans ?_
  rw [plain, if_neg Bool.false_ne_true, fresh]

end Yard

end Passthrough
