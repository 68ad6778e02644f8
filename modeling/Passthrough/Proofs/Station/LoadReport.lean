import Passthrough.Proofs.Session.LoadOutcome
import Passthrough.Proofs.Session.Takings
import Passthrough.Proofs.Station.Run

set_option autoImplicit false

/-! Loads on a machine that only its sessions have used. Between operations such a machine is
ready for each of them, so every load ends as can be told from the request, the files, the
counts of earlier calls, and the faults. -/

namespace Passthrough

open Files (FileTree)

namespace Station

theorem start_nextAddress (station : Station) (limits : PoolLimits) (container : ContainerName) :
    (station.start limits container).machine.nextAddress ≤
      station.machine.nextAddress + Staging.loadSpan := by
  have taken := Logged.Takes.within
    (Session.takes_start station.files (Pool.empty limits) container) (by decide)
    station.machine []
  unfold Station.start platform
  generalize (Session.start (Simulator.platform station.files) (Pool.empty limits)
    container).outcome ⟨station.machine, []⟩ = ended at taken ⊢
  obtain ⟨result, traced⟩ := ended
  cases result <;> exact taken

theorem operate_nextAddress {α : Type} (station : Station) (index : Nat)
    (operation : Session HostAddress → Logged Simulator (Result α × Session HostAddress))
    {count : Nat} (few : count ≤ 4) (takes : ∀ session, (operation session).Takes count) :
    (station.operate index operation).machine.nextAddress ≤
      station.machine.nextAddress + Staging.loadSpan := by
  unfold operate
  cases station.sessions[index]? with
  | none => exact Nat.le_add_right _ _
  | some live => exact (takes live.session).within few station.machine []

theorem finish_nextAddress {α : Type} (station : Station) (index : Nat)
    (operation : Session HostAddress → Logged Simulator α)
    (takes : ∀ session, (operation session).Takes 0) :
    (station.finish index operation).machine.nextAddress ≤
      station.machine.nextAddress + Staging.loadSpan := by
  unfold finish
  cases station.sessions[index]? with
  | none => exact Nat.le_add_right _ _
  | some live => exact (takes live.session).within (by decide) station.machine []

theorem step_nextAddress (station : Station) (action : Action) :
    (station.step action).machine.nextAddress ≤
      station.machine.nextAddress + Staging.loadSpan := by
  have asks (session : Session HostAddress) (call : Call) :=
    Simulator.takes_request station.files session.portal call
  have steady {after : Simulator} (same : after.nextAddress = station.machine.nextAddress) :
      after.nextAddress ≤ station.machine.nextAddress + Staging.loadSpan :=
    Nat.le_add_right_of_le (Nat.le_of_eq same)
  cases action with
  | start limits container => exact station.start_nextAddress limits container
  | status index =>
      exact station.operate_nextAddress index _ (by decide) (Session.takes_status station.files)
  | reset index =>
      apply station.operate_nextAddress index _ (by decide : 0 ≤ 4)
      exact fun session => Session.takes_withChannel _ _ _ fun _ => asks session _
  | timeOfDay index =>
      apply station.operate_nextAddress index _ (by decide : 0 ≤ 4)
      exact fun session => Session.takes_withChannel _ _ _ fun _ => asks session _
  | setTimeOfDay index time =>
      apply station.operate_nextAddress index _ (by decide : 0 ≤ 4)
      exact fun session => Session.takes_withChannel _ _ _ fun _ => asks session _
  | load index request =>
      apply station.operate_nextAddress index _ (by decide : 4 ≤ 4)
      exact fun session => Session.takes_load station.files session request
  | teardown index =>
      exact station.finish_nextAddress index _ (Session.takes_teardown station.files)
  | drop index => exact station.finish_nextAddress index _ (Session.takes_drop station.files)
  | inject fault =>
      apply steady
      change (station.machine.inject fault).nextAddress = _
      unfold Simulator.inject
      split <;> rfl
  | setViable group viable =>
      apply steady
      change (station.machine.setViable group viable).nextAddress = _
      unfold Simulator.setViable
      split <;> rfl
  | _ => exact steady rfl

theorem run_nextAddress (station : Station) (actions : List Action) :
    (station.run actions).machine.nextAddress ≤
      station.machine.nextAddress + Staging.loadSpan * actions.length := by
  induction actions generalizing station with
  | nil => exact Nat.le_refl _
  | cons action rest ih =>
      have first := station.step_nextAddress action
      have others := ih (station.step action)
      change ((station.step action).run rest).machine.nextAddress ≤ _
      rw [List.length_cons, Nat.mul_succ]
      omega

/-- Only a run of very many actions uses the addresses up: there are more than two to the power
of 37 loads in them, from the first address on. -/
theorem run_hasRoom (machine : Simulator) (files : FileTree) (actions : List Action)
    (few : machine.nextAddress + Staging.loadSpan * (actions.length + 1) ≤ UInt64.size) :
    ((opened machine files).run actions).machine.HasRoom := by
  have taken := (opened machine files).run_nextAddress actions
  have first : (opened machine files).machine.nextAddress = machine.nextAddress := rfl
  rw [Nat.mul_succ] at few
  unfold Simulator.HasRoom
  omega

variable {attributes : TileAttributes} {station : Station} {live : Live}

theorem Owned.ready (owned : Owned attributes station) (member : live ∈ station.sessions)
    (room : station.machine.HasRoom) : live.session.Ready station.machine where
  fresh := owned.owns.fresh
  container := by
    have listed : (live.session.group.container.number, .container true) ∈ live.descriptors :=
      List.mem_append_right _ (List.mem_cons_of_mem _ List.mem_cons_self)
    rw [(owned.sound live member).dma]
    exact (owned.heldIn member).descriptors _ listed
  registrations := owned.owns.registrations
  own := (owned.own live member).trans (congrArg TileAttributes.id owned.owns.attributes).symm
  room := room

def loading (station : Station) (live : Live) (request : LoadRequest) (machine : Simulator)
    (log : List Diagnostic) : (Result Unit × Session HostAddress) × Traced Simulator :=
  live.session.load station.platform station.files request ⟨machine, log⟩

structure LoadReport (station : Station) (live : Live) (request : LoadRequest)
    (log : List Diagnostic) : Prop where
  /-- The first failing step makes the failure. -/
  verdict : (station.loading live request station.machine log).1.1 =
    request.verdict station.files station.machine
  success : (station.loading live request station.machine log).1.1 = .ok () ↔
    (∃ plan, request.plan station.files = .ok plan) ∧
      ∀ step ∈ request.stepsOn station.machine, step ≠ .reset →
        station.machine.has step = false
  validation : ∀ failure,
    (station.loading live request station.machine log).1.1 = .error failure →
      (failure.isValidation = true ↔ ∃ refusal, request.plan station.files = .error refusal)
  /-- A request that is refused is refused on any platform, without a call. -/
  untouched : ∀ refusal, request.plan station.files = .error refusal →
    ∀ (World Portal : Type) (platform : Platform World Portal) (session : Session Portal)
      (start : Traced World), session.load platform station.files request start =
        ((.error refusal, session),
          { start with log := start.log ++ [⟨.error, refusal.message⟩] })
  reset : ∀ reset : Bool,
    (station.loading live { request with reset := reset } station.machine log).1.1 =
      (station.loading live request station.machine log).1.1
  idle : ∀ fault, fault = .reset ∨ fault = .mapInterruptPage →
    (station.loading live request (station.machine.inject fault) log).1.1 =
      (station.loading live request station.machine log).1.1
  tile : (station.loading live request station.machine log).2.world.tile.state =
    request.tileAfter station.files station.machine

/-- Every load of a live session ends as it was foretold, after any run of actions that leaves the
load its addresses, as `run_hasRoom` says of all but the longest. -/
theorem load_foretold (machine : Simulator) (files : FileTree) (reachable : machine.Reachable)
    (nothing : machine.holdings.isEmpty = true) (actions : List Action) (index : Nat)
    (live : Live) (found : ((opened machine files).run actions).sessions[index]? = some live)
    (room : ((opened machine files).run actions).machine.HasRoom) (request : LoadRequest)
    (log : List Diagnostic) :
    ((opened machine files).run actions).LoadReport live request log := by
  have owned := (Owned.opened reachable.fresh (reachable.holdsNothing nothing) files).run actions
  generalize (opened machine files).run actions = station at *
  have member := List.mem_of_getElem? found
  have atRest := (owned.sound live member).atRest
  have ready := owned.ready member room
  have fronts := Simulator.fronts_platform station.files
  have ends (request : LoadRequest) {sim : Simulator} (ready : live.session.Ready sim) :
      (station.loading live request sim log).1.1 = request.verdict station.files sim ∧
        (station.loading live request sim log).2.world.tile.state =
          request.tileAfter station.files sim :=
    Session.load_verdict fronts atRest request sim ready log
  obtain ⟨verdict, tile⟩ := ends request ready
  refine {
    verdict := verdict
    success := ?_
    validation := ?_
    untouched := ?_
    reset := ?_
    idle := ?_
    tile := tile }
  · rw [verdict]
    exact request.verdict_ok_iff station.files station.machine
  · intro failure failed
    rw [verdict] at failed
    exact request.isValidation_verdict station.files station.machine failed
  · intro refusal refused World Portal platform session start
    rw [Session.load_of_refused refused]
    rfl
  · intro reset
    rw [verdict, (ends _ ready).1]
    exact request.verdict_withReset station.files station.machine reset
  · intro fault idle
    rw [verdict, (ends request (ready.inject fault)).1]
    exact request.verdict_inject station.files station.machine idle

theorem load_foretold_of_faulty_run :
    let files : FileTree := ⟨[(["image"], .regular ⟨[], 100⟩ true)], []⟩
    let station := (opened (Tool.demonstration .standard) files).run
      [.start .standard .standard, .inject .reset, .inject .run]
    let request : LoadRequest := { image := "/image", arguments := none, reset := true }
    ∃ live, station.sessions[0]? = some live ∧
      (station.loading live request station.machine []).1.1 =
        .error (.firmware "run" .invalidState) ∧
      (station.loading live request station.machine []).2.world.tile.state = .loadDone := by
  intro files station request
  have started : 0 < station.sessions.length := by decide +kernel
  refine ⟨station.sessions[0], List.getElem?_eq_getElem started, ?_⟩
  have report := load_foretold (Tool.demonstration .standard) files
    (Simulator.reachable_demonstration .standard) (by decide +kernel)
    [.start .standard .standard, .inject .reset, .inject .run] 0 station.sessions[0]
    (List.getElem?_eq_getElem started) (run_hasRoom _ _ _ (by decide +kernel)) request []
  exact ⟨report.verdict.trans (by decide +kernel), report.tile.trans (by decide +kernel)⟩

end Station

end Passthrough
