import Mathlib.Data.List.Find
import Passthrough.Proofs.Session.Tally

set_option autoImplicit false

/-! The result of a load, and the tile it leaves. On a ready machine that refuses nothing of its
own accord both can be read off before the load: the request is refused, or the first step
that a fault hits ends it, or it succeeds. A reset that is hit does not count, and the
interrupt page is no step at all. -/

namespace Passthrough

open Files (FileTree)

variable {World Portal : Type} {α : Type}

namespace Fault

def ends (hit : Fault → Bool) (step : Fault) : Bool :=
  step != .reset && hit step

def passed (hit : Fault → Bool) (steps : List Fault) : List Fault :=
  (steps.takeWhile fun step => !ends hit step).filter fun step => !hit step

def lastState (made : List Fault) (tile : TileState) : TileState :=
  if .run ∈ made then .running
  else if .load ∈ made then .loadDone
  else if .reset ∈ made then .resetDone
  else tile

end Fault

namespace LoadRequest

def stepsOn (request : LoadRequest) (sim : Simulator) : List Fault :=
  request.steps sim.filesOpened sim.filesMapped sim.buffersRegistered

def verdict (request : LoadRequest) (files : FileTree) (sim : Simulator) : Result Unit :=
  match request.plan files with
  | .error failure => .error failure
  | .ok _ =>
      match (request.stepsOn sim).find? (Fault.ends sim.has) with
      | some step => .error step.failure
      | none => .ok ()

def passedOn (request : LoadRequest) (files : FileTree) (sim : Simulator) : List Fault :=
  match request.plan files with
  | .error _ => []
  | .ok _ => Fault.passed sim.has (request.stepsOn sim)

/-- The state that a load will leave the tile in: that of the last call that was accepted. -/
def tileAfter (request : LoadRequest) (files : FileTree) (sim : Simulator) : TileState :=
  Fault.lastState (request.passedOn files sim) sim.tile.state

end LoadRequest

/-! ### What decides the verdict -/

theorem Simulator.has_inject_of_ne (sim : Simulator) {step fault : Fault} (apart : step ≠ fault) :
    (sim.inject fault).has step = sim.has step := by
  unfold inject
  split
  · rfl
  · simp [has, apart]

theorem Session.Ready.inject {session : Session Portal} {sim : Simulator}
    (ready : session.Ready sim) (fault : Fault) : session.Ready (sim.inject fault) := by
  have fresh := ready.fresh.step (.inject fault)
  obtain ⟨-, container, registrations, own, room⟩ := ready
  unfold Simulator.inject at fresh ⊢
  split
  · next known =>
      rw [if_pos known] at fresh
      exact ⟨fresh, container, registrations, own, room⟩
  · next unknown =>
      rw [if_neg unknown] at fresh
      exact ⟨fresh, container, registrations, own, room⟩

namespace LoadRequest

variable (request : LoadRequest) (files : FileTree) (sim : Simulator)

/-- A load succeeds just when its request is accepted and no fault hits a step that counts. -/
theorem verdict_ok_iff :
    request.verdict files sim = .ok () ↔ (∃ plan, request.plan files = .ok plan) ∧
      ∀ step ∈ request.stepsOn sim, step ≠ .reset → sim.has step = false := by
  have free : (request.stepsOn sim).find? (Fault.ends sim.has) = none ↔
      ∀ step ∈ request.stepsOn sim, step ≠ .reset → sim.has step = false := by
    simp [List.find?_eq_none, Fault.ends]
  unfold verdict
  cases planned : request.plan files with
  | error failure => simp
  | ok plan =>
      cases found : (request.stepsOn sim).find? (Fault.ends sim.has) with
      | none => simpa using free.mp found
      | some step =>
          have hit : ¬ ∀ step ∈ request.stepsOn sim, step ≠ .reset → sim.has step = false := by
            rw [← free, found]
            exact nofun
          simp [hit]

theorem isValidation_verdict {failure : DriverError}
    (failed : request.verdict files sim = .error failure) :
    failure.isValidation = true ↔ ∃ refusal, request.plan files = .error refusal := by
  unfold verdict at failed
  cases planned : request.plan files with
  | error refusal =>
      simp only [planned] at failed
      cases failed
      exact ⟨fun _ => ⟨_, rfl⟩, fun _ => isValidation_plan planned⟩
  | ok plan =>
      simp only [planned] at failed
      cases found : (request.stepsOn sim).find? (Fault.ends sim.has) with
      | none =>
          simp only [found] at failed
          cases failed
      | some step =>
          simp only [found] at failed
          cases failed
          simp [step.isValidation_failure]

theorem verdict_withReset (reset : Bool) :
    ({ request with reset := reset } : LoadRequest).verdict files sim =
      request.verdict files sim := by
  have same : (({ request with reset := reset } : LoadRequest).stepsOn sim).find?
      (Fault.ends sim.has) = (request.stepsOn sim).find? (Fault.ends sim.has) := by
    unfold stepsOn steps firmwareSteps
    cases request.arguments <;> cases reset <;> cases request.reset <;>
      simp [List.find?_cons, Fault.ends]
  unfold verdict
  rw [same]
  rfl

theorem mapInterruptPage_notMem_stepsOn : .mapInterruptPage ∉ request.stepsOn sim := by
  unfold stepsOn steps firmwareSteps
  cases request.arguments <;> cases request.reset <;> simp

theorem verdict_inject {fault : Fault} (idle : fault = .reset ∨ fault = .mapInterruptPage) :
    request.verdict files (sim.inject fault) = request.verdict files sim := by
  have steps : request.stepsOn (sim.inject fault) = request.stepsOn sim := by
    unfold Simulator.inject
    split <;> rfl
  have same : (request.stepsOn sim).find? (Fault.ends (sim.inject fault).has) =
      (request.stepsOn sim).find? (Fault.ends sim.has) := by
    refine List.find?_congr fun step member => ?_
    by_cases reset : step = .reset
    · subst reset
      rfl
    · have apart : step ≠ fault := by
        rintro rfl
        rcases idle with rfl | rfl
        · exact reset rfl
        · exact request.mapInterruptPage_notMem_stepsOn sim member
      simp [Fault.ends, sim.has_inject_of_ne apart]
  unfold verdict
  rw [steps, same]

end LoadRequest

/-! ### An account that leaves no choice -/

namespace Account.Outcome

variable {account : Account World} {hit : Fault → Bool} {steps : List Fault}
  {tile last : TileState} {failure : Option DriverError}

theorem eq_find? (outcome : account.Outcome steps tile failure last)
    (accepts : ∀ step, account.accepts step → hit step = false)
    (rejects : ∀ step failure, account.rejects step failure →
      hit step = true ∧ failure = step.failure) :
    failure = (steps.find? (Fault.ends hit)).map Fault.failure ∧
      last = (Fault.passed hit steps).foldl (fun tile step => step.settle tile) tile := by
  induction outcome with
  | done tile => exact ⟨rfl, rfl⟩
  | @pass step rest tile last failure accepted later ih =>
      have free := accepts step accepted
      have goes : Fault.ends hit step = false := by simp [Fault.ends, free]
      simpa [Fault.passed, goes, free] using ih
  | @stop step rest tile failure counts rejected =>
      obtain ⟨struck, rfl⟩ := rejects step failure rejected
      have ends : Fault.ends hit step = true := by simp [Fault.ends, struck, counts]
      simp [Fault.passed, ends]
  | @skip rest tile last passed failure rejected later ih =>
      have struck := (rejects .reset passed rejected).1
      have goes : Fault.ends hit .reset = false := rfl
      simpa [Fault.passed, goes, struck] using ih

end Account.Outcome

/-! ### The tile -/

namespace Fault

theorem passed_cons (hit : Fault → Bool) (step : Fault) (rest : List Fault) :
    passed hit (step :: rest) =
      if ends hit step then [] else if hit step then passed hit rest
      else step :: passed hit rest := by
  unfold passed
  cases stops : ends hit step <;> cases struck : hit step <;> simp [stops, struck]

def IsQuiet (step : Fault) : Prop :=
  step ≠ .reset ∧ step ≠ .load ∧ step ≠ .run

theorem IsQuiet.lastState_cons {step : Fault} (quiet : step.IsQuiet) (made : List Fault)
    (tile : TileState) : lastState (step :: made) tile = lastState made tile := by
  obtain ⟨reset, load, run⟩ := quiet
  simp [lastState, reset.symm, load.symm, run.symm]

theorem IsQuiet.settle {step : Fault} (quiet : step.IsQuiet) (tile : TileState) :
    step.settle tile = tile := by
  obtain ⟨reset, load, run⟩ := quiet
  cases step <;> first | rfl | contradiction

/-- Quiet steps in front decide only whether the others are made. -/
theorem foldl_settle_append {hit : Fault → Bool} {front rest : List Fault} {tile : TileState}
    (quiet : ∀ step ∈ front, step.IsQuiet)
    (known : (passed hit rest).foldl (fun tile step => step.settle tile) tile =
      lastState (passed hit rest) tile) :
    (passed hit (front ++ rest)).foldl (fun tile step => step.settle tile) tile =
      lastState (passed hit (front ++ rest)) tile := by
  induction front with
  | nil => exact known
  | cons step front ih =>
      have here := quiet step List.mem_cons_self
      have there := ih fun other member => quiet other (List.mem_cons_of_mem _ member)
      rw [List.cons_append, passed_cons]
      split
      · rfl
      · split
        · exact there
        · rw [List.foldl_cons, here.settle, here.lastState_cons]
          exact there

end Fault

theorem LoadRequest.foldl_settle_firmwareSteps (request : LoadRequest) (hit : Fault → Bool)
    (tile : TileState) :
    (Fault.passed hit request.firmwareSteps).foldl (fun tile step => step.settle tile) tile =
      Fault.lastState (Fault.passed hit request.firmwareSteps) tile := by
  have quiet : ∀ step ∈ [Fault.firmwareOpen], step.IsQuiet := by simp [Fault.IsQuiet]
  apply Fault.foldl_settle_append quiet
  cases reset : hit .reset <;> cases load : hit .load <;> cases run : hit .run <;>
    cases close : hit .firmwareClose <;> cases request.reset <;>
      simp [Fault.passed, Fault.ends, Fault.lastState, Fault.settle, reset, load, run, close]

theorem LoadRequest.foldl_settle_steps (request : LoadRequest) (hit : Fault → Bool)
    (opened mapped registered : Nat) (tile : TileState) :
    (Fault.passed hit (request.steps opened mapped registered)).foldl
        (fun tile step => step.settle tile) tile =
      Fault.lastState (Fault.passed hit (request.steps opened mapped registered)) tile := by
  have firmware := request.foldl_settle_firmwareSteps hit tile
  unfold LoadRequest.steps
  cases request.arguments with
  | none =>
      refine Fault.foldl_settle_append ?_ firmware
      simp [Fault.IsQuiet]
  | some path =>
      refine Fault.foldl_settle_append ?_ firmware
      simp [Fault.IsQuiet]

/-! ### The result -/

theorem Platform.Fronts.tallied {platform : Platform World Portal} {machine : World → Simulator}
    {files : FileTree} (fronts : platform.Fronts machine files fun _ => False)
    {session : Session Portal} {base : Simulator} (ready : session.Ready base)
    (request : LoadRequest) (plan : LoadPlan) :
    ((Tally.account session.dma.container base).over machine).Kept platform files session request
      plan where
  apart := by
    intro ledger world holds descriptor address length rest top
    have tally : Tally _ base ledger (machine world) := holds
    exact tally.custody.mapping_apart top
  openFile := by
    intro ledger world holds phase path size sized
    have tally : Tally _ base ledger (machine world) := holds
    exact ((fronts.openFile path).exactly world (tally.openFile sized)).mono
      fun _ _ => Account.Settles.over
  mapFile := by
    intro ledger world holds phase few path descriptor known size short
    have tally : Tally _ base ledger (machine world) := holds
    have taken := Tally.mappedPages_stagedLength short
    exact ((fronts.mapFile descriptor _).exactly world
      (tally.mapFile ready.room phase few known taken)).mono fun _ _ => Account.Settles.over
  closeFile := by
    intro ledger world holds path descriptor rest top
    have tally : Tally _ base ledger (machine world) := holds
    exact (fronts.closeFile descriptor).exactly world (tally.closeFile top).2
  unmap := by
    intro ledger world holds descriptor address length rest top
    have tally : Tally _ base ledger (machine world) := holds
    exact (fronts.unmap address length).exactly world (tally.unmap top).2
  mapDma := by
    intro ledger world holds phase descriptor address length mapped unregistered
    have tally : Tally _ base ledger (machine world) := holds
    exact ((fronts.mapDma _ address address.identity length).exactly world
      (tally.mapDma ready mapped unregistered)).mono fun _ _ => Account.Settles.over
  unmapDma := by
    intro ledger world holds address length rest top
    have tally : Tally _ base ledger (machine world) := holds
    exact (fronts.unmapDma _ address.identity length).exactly world (tally.unmapDma top).2
  mapPage := by
    intro ledger world holds phase absent untouched
    have tally : Tally _ base ledger (machine world) := holds
    exact ((fronts.mapDevice _ _ _).exactly world
      (tally.mapPage phase absent untouched _ _)).mono fun _ _ => Account.Moves.over
  registerPage := by
    intro ledger world holds absent page mapped
    have tally : Tally _ base ledger (machine world) := holds
    exact ((fronts.mapDma _ _ _ _).exactly world (tally.registerPage absent mapped)).mono
      fun _ _ => Account.Moves.over
  unregisterPage := by
    intro ledger world holds page present untouched
    have tally : Tally _ base ledger (machine world) := holds
    exact (fronts.unmapDma _ _ _).exactly world (tally.unregisterPage present untouched).2
  unmapPage := by
    intro ledger world holds absent page mapped
    have tally : Tally _ base ledger (machine world) := holds
    exact (fronts.unmap page _).exactly world (tally.unmapPage absent mapped).2
  openSession := by
    intro ledger world holds phase unopened
    have tally : Tally _ base ledger (machine world) := holds
    refine (fronts.request _ _ world).mono ?_
    rintro result after ⟨rfl, portals, reached⟩
    apply Account.Settles.over
    rw [reached]
    exact tally.openSession ready unopened portals
  resetTile := by
    intro ledger world holds phase token opened
    have tally : Tally _ base ledger (machine world) := holds
    refine (fronts.request _ _ world).mono ?_
    rintro result after ⟨rfl, portals, reached⟩
    apply Account.Settles.over
    rw [reached]
    exact tally.resetTile opened portals
  loadTile := by
    intro ledger world holds phase token opened address offered
    have tally : Tally _ base ledger (machine world) := holds
    refine (fronts.request _ _ world).mono ?_
    rintro result after ⟨rfl, portals, reached⟩
    apply Account.Settles.over
    rw [reached]
    exact tally.loadTile opened offered portals
  runTile := by
    intro ledger world holds phase token opened loaded arguments offered
    have tally : Tally _ base ledger (machine world) := holds
    refine (fronts.request _ _ world).mono ?_
    rintro result after ⟨rfl, portals, reached⟩
    apply Account.Settles.over
    rw [reached]
    exact tally.runTile opened loaded offered portals
  closeSession := by
    intro ledger world holds phase token opened
    have tally : Tally _ base ledger (machine world) := holds
    refine (fronts.request _ _ world).mono ?_
    rintro result after ⟨rfl, portals, reached⟩
    apply Account.Settles.over
    rw [reached]
    exact tally.closeSession opened portals

/-- On a ready machine a load ends as it was foretold. -/
theorem Session.load_verdict {platform : Platform World Portal} {machine : World → Simulator}
    {files : FileTree} (fronts : platform.Fronts machine files fun _ => False)
    {session : Session Portal} (atRest : session.AtRest) (request : LoadRequest) (world : World)
    (ready : session.Ready (machine world)) :
    (session.load platform files request).Yields world fun outcome after =>
      outcome.1 = request.verdict files (machine world) ∧
        (machine after).tile.state = request.tileAfter files (machine world) := by
  unfold LoadRequest.verdict LoadRequest.tileAfter LoadRequest.passedOn
  cases planned : request.plan files with
  | error failure =>
      rw [Session.load_of_refused planned]
      exact Logged.Yields.afterNote (Logged.Yields.pure ⟨rfl, rfl⟩)
  | ok plan =>
      have holds : ((Tally.account session.dma.container (machine world)).over machine).holds
          (Ledger.start (machine world).filesOpened (machine world).filesMapped
            (machine world).buffersRegistered (machine world).tile.state) world :=
        Tally.start ready.fresh
      refine ((fronts.tallied ready request plan).load planned atRest holds).mono ?_
      intro ⟨result, left⟩ after ⟨last, tally, _, _, outcome⟩
      obtain ⟨failed, state⟩ := outcome.eq_find? (fun _ accepted => accepted)
        (fun _ _ rejected => rejected)
      refine ⟨?_, ?_⟩
      · change Result.failure? result =
          ((request.stepsOn (machine world)).find? (Fault.ends (machine world).has)).map
            Fault.failure at failed
        cases first : (request.stepsOn (machine world)).find?
            (Fault.ends (machine world).has) with
        | none =>
            rw [first] at failed
            cases result with
            | ok _ => rfl
            | error failure => cases failed
        | some step =>
            rw [first] at failed
            cases result with
            | ok _ => cases failed
            | error failure => exact congrArg Except.error (Option.some.inj failed)
      · have tile : (machine after).tile = { (machine world).tile with state := last.tile } :=
          tally.tile
        rw [tile]
        exact state.trans (request.foldl_settle_steps _ _ _ _ _)

end Passthrough
