import Passthrough.Proofs.Simulator.Dealings

set_option autoImplicit false

/-! Firmware sessions over a run. Sessions change only where a command is executed: an
opening that is answered well adds the token it hands out, and a closing takes away the
token it names. Tokens are counted up and start over at one after the highest word, whether
or not the session of that token has ended by then. -/

namespace Passthrough.Simulator

variable {sim after : Simulator}

/-- The token that a command hands out: that of a response which says that a session is open. -/
def handed? (sim : Simulator) (command : Command) : Option UInt16 :=
  match Call.ofCommand? command with
  | some (.openSession _) =>
      if (sim.execute command).1.status = .ok then some (sim.execute command).1.token.number
      else none
  | _ => none

def ended? (sim : Simulator) (command : Command) : Option UInt16 :=
  match Call.ofCommand? command with
  | some (.closeSession token) => if sim.hasSession token then some token.number else none
  | _ => none

/-- What a command does to the sessions, as is told by what it hands out and what it ends. -/
inductive Handling (sim after : Simulator) : Option UInt16 → Option UInt16 → Prop where
  | opens (sessions : after.sessions = sim.sessions.insert sim.nextToken)
      (last : after.lastToken = sim.nextToken) : Handling sim after (some sim.nextToken) none
  | closes {token : UInt16} (opened : token ∈ sim.sessions)
      (sessions : after.sessions = sim.sessions.erase token)
      (last : after.lastToken = sim.lastToken) : Handling sim after none (some token)
  | aside (sessions : after.sessions = sim.sessions) (last : after.lastToken = sim.lastToken) :
      Handling sim after none none

theorem respond_ok (command : Command) (hardwareId : UInt32) (token : Token) :
    (respond command (.openSession hardwareId) (.ok token)).status = .ok ∧
      (respond command (.openSession hardwareId) (.ok token)).token = token := by
  constructor
  · exact Command.status_withStatus .ok _
  · simp [respond, Call.writeReply]

theorem respond_error (command : Command) (call : Call) {status : Status}
    (proper : status.Refuses) : (respond command call (.error status)).status ≠ .ok := by
  have shown : (respond command call (.error status)).status = status :=
    (Command.status_withStatus status _).trans proper.readBack
  rw [shown]
  exact proper.notOk

theorem execute_of_call {command : Command} {call : Call}
    (known : Call.ofCommand? command = some call) :
    sim.execute command = (respond command call (sim.serve call).1, (sim.serve call).2) := by
  unfold execute
  rw [known]

private theorem handling_openSession (sim : Simulator) (command : Command) (hardwareId : UInt32) :
    Handling sim (sim.openSession hardwareId).2
      (if (respond command (.openSession hardwareId) (sim.openSession hardwareId).1).status = .ok
        then
          some (respond command (.openSession hardwareId)
            (sim.openSession hardwareId).1).token.number
        else none) none := by
  by_cases fault : sim.has .firmwareOpen
  · have refused := respond_error command (.openSession hardwareId)
      (show Status.Refuses .noResource from ⟨rfl, nofun, nofun⟩)
    rw [openSession_of_fault sim hardwareId fault]
    dsimp only
    rw [if_neg refused]
    exact .aside rfl rfl
  · by_cases own : hardwareId = sim.tile.attributes.id
    · obtain ⟨done, token⟩ := respond_ok command hardwareId ⟨sim.nextToken⟩
      rw [openSession_of_own sim hardwareId fault own]
      dsimp only
      rw [if_pos done, token]
      exact .opens rfl rfl
    · have refused := respond_error command (.openSession hardwareId)
        (show Status.Refuses .configError from ⟨rfl, nofun, nofun⟩)
      rw [openSession_of_foreign sim hardwareId fault own]
      dsimp only
      rw [if_neg refused]
      exact .aside rfl rfl

private theorem handling_closeSession (sim : Simulator) (token : Token) :
    Handling sim (sim.closeSession token).2 none
      (if sim.hasSession token then some token.number else none) := by
  by_cases known : sim.hasSession token
  · rw [closeSession_of_known sim token known, if_pos known]
    exact .closes (Std.ExtTreeSet.mem_iff_contains.mpr known) rfl rfl
  · rw [closeSession_of_unknown sim token known, if_neg known]
    exact .aside rfl rfl

theorem execute_handling (sim : Simulator) (command : Command) :
    Handling sim (sim.execute command).2 (sim.handed? command) (sim.ended? command) := by
  unfold handed? ended?
  cases known : Call.ofCommand? command with
  | none =>
      have same : (sim.execute command).2 = sim := by
        unfold execute
        rw [known]
      rw [same]
      exact .aside rfl rfl
  | some call =>
      rw [execute_of_call known]
      cases call with
      | openSession hardwareId => exact handling_openSession sim command hardwareId
      | closeSession token => exact handling_closeSession sim token
      | _ =>
          obtain ⟨-, sessions, last⟩ := sim.inSession_change _
          exact .aside sessions last

def Stimulus.command? (stimulus : Stimulus) (sim : Simulator) : Option Command :=
  match stimulus with
  | .submit portal header => some (Portal.storeAt (sim.portalWords portal) 0 header)
  | .send _ _ command => some command
  | _ => none

def Stimulus.handed? (stimulus : Stimulus) (sim : Simulator) : Option UInt16 :=
  (stimulus.command? sim).bind sim.handed?

def Stimulus.ended? (stimulus : Stimulus) (sim : Simulator) : Option UInt16 :=
  (stimulus.command? sim).bind sim.ended?

/-- A token that is handed out although its session is still open. -/
def Stimulus.doubled? (stimulus : Stimulus) (sim : Simulator) : Option UInt16 :=
  (stimulus.handed? sim).filter sim.sessions.contains

private theorem Handling.congr {first second : Option UInt16} {other : Simulator}
    (handling : Handling sim after first second) (sessions : other.sessions = after.sessions)
    (last : other.lastToken = after.lastToken) : Handling sim other first second := by
  cases handling with
  | opens inserted handed => exact .opens (sessions.trans inserted) (last.trans handed)
  | closes opened erased same => exact .closes opened (sessions.trans erased) (last.trans same)
  | aside kept same => exact .aside (sessions.trans kept) (last.trans same)

private theorem handling_of_aside (aside : Aside sim after) : Handling sim after none none := by
  have sessions : after.sessions = sim.sessions := by rw [aside.same]
  have last : after.lastToken = sim.lastToken := by rw [aside.same]
  exact .aside sessions last

theorem react_handling (sim : Simulator) (stimulus : Stimulus) :
    Handling sim (sim.react stimulus).2 (stimulus.handed? sim) (stimulus.ended? sim) := by
  cases stimulus with
  | submit portal header =>
      exact (sim.execute_handling (Portal.storeAt (sim.portalWords portal) 0 header)).congr rfl rfl
  | send portal operation command =>
      obtain ⟨portals, sent⟩ := sim.react_send portal operation command
      rw [sent]
      exact (sim.execute_handling command).congr rfl rfl
  | inject fault =>
      dsimp only [react, Simulator.inject]
      split
      all_goals exact .aside rfl rfl
  | setViable group viable =>
      dsimp only [react, Simulator.setViable]
      split
      all_goals exact .aside rfl rfl
  | openGroup group =>
      dsimp only [react]
      rw [openGroup_eq]
      repeat' split
      all_goals exact .aside rfl rfl
  | setContainer group container =>
      dsimp only [react]
      rw [setContainer_eq]
      repeat' split
      all_goals exact .aside rfl rfl
  | unsetContainer group =>
      dsimp only [react]
      rw [unsetContainer_eq]
      split
      all_goals exact .aside rfl rfl
  | setIommu container =>
      dsimp only [react]
      rw [setIommu_eq]
      repeat' split
      all_goals exact .aside rfl rfl
  | deviceFd group name =>
      dsimp only [react]
      rw [deviceFd_eq]
      repeat' split
      all_goals exact .aside rfl rfl
  | mapPortal device =>
      dsimp only [react]
      rw [mapPortal_eq]
      repeat' split
      all_goals exact .aside rfl rfl
  | mapDma container host device length =>
      exact handling_of_aside (.mapDma sim container host device length)
  | unmapDma container device length =>
      exact handling_of_aside (.unmapDma sim container device length)
  | openFile files path =>
      exact handling_of_aside (.openFile sim files path)
  | mapFile file length =>
      exact handling_of_aside (.mapFile sim file length)
  | mapDevice device offset length =>
      exact handling_of_aside (.mapDevice sim device offset length)
  | unmap address length =>
      exact handling_of_aside (.unmap sim address length)
  | close number =>
      dsimp only [react]
      rw [close_eq]
      split
      · next object _ => cases object <;> exact .aside rfl rfl
      · exact .aside rfl rfl
  | prepare portal index value =>
      dsimp only [react, writePortal]
      rw [if_neg (Portal.parameterOffset_ne_zero index)]
      exact .aside rfl rfl
  | _ => exact .aside rfl rfl

end Passthrough.Simulator
