import Passthrough.Proofs.Portal.Access
import Passthrough.Proofs.Portal.Cells
import Passthrough.Proofs.Simulator.FirmwareCases
import Passthrough.Proofs.Tile.CallCodec
import Passthrough.Simulator.Calls

set_option autoImplicit false

/-! A command through the registers of a simulated portal reaches the firmware as it is,
and a call is one such command. The first look at the header finds the response, and the
reply to a call is the firmware's. What the portal shows afterwards is left open, as the
next command overwrites all of it; other portals show what they showed. -/

namespace Passthrough

namespace Simulator

open Portal

def withPortals (sim : Simulator) (portals : Std.ExtTreeMap Nat Command compare) : Simulator :=
  { sim with portals := portals }

theorem FirmwareChange.withPortals {before after : Simulator}
    (change : FirmwareChange before after) (portals : Std.ExtTreeMap Nat Command compare) :
    FirmwareChange before (after.withPortals portals) where
  same := by
    rw [change.same]
    rfl
  attributes := change.attributes
  serviceLayer := change.serviceLayer

/-- The firmware never looks at what a portal shows. -/
theorem serve_withPortals (sim : Simulator) (portals : Std.ExtTreeMap Nat Command compare)
    (call : Call) :
    (sim.withPortals portals).serve call =
      ((sim.serve call).1, (sim.serve call).2.withPortals portals) := by
  have inSession (call : Call) : (sim.withPortals portals).inSession call =
      ((sim.inSession call).1, (sim.inSession call).2.withPortals portals) := by
    by_cases known : sim.hasSession call.token
    · rcases answer_shape sim call with ⟨status, -, answered⟩ | ⟨reply, tile, answered, -, -⟩
      · rw [inSession_of_refusal sim call status known answered]
        exact inSession_of_refusal _ call status known answered
      · rw [inSession_of_answer sim call reply tile known answered]
        exact inSession_of_answer _ call reply tile known answered
    · rw [inSession_of_unknown sim call known]
      exact inSession_of_unknown _ call known
  cases call with
  | openSession hardwareId =>
      change (sim.withPortals portals).openSession hardwareId =
        ((sim.openSession hardwareId).1, (sim.openSession hardwareId).2.withPortals portals)
      by_cases fault : sim.has .firmwareOpen
      · rw [openSession_of_fault sim hardwareId fault]
        exact openSession_of_fault _ hardwareId fault
      · by_cases own : hardwareId = sim.tile.attributes.id
        · rw [openSession_of_own sim hardwareId fault own]
          exact openSession_of_own _ hardwareId fault own
        · rw [openSession_of_foreign sim hardwareId fault own]
          exact openSession_of_foreign _ hardwareId fault own
  | closeSession token =>
      change (sim.withPortals portals).closeSession token =
        ((sim.closeSession token).1, (sim.closeSession token).2.withPortals portals)
      by_cases known : sim.hasSession token
      · rw [closeSession_of_known sim token known]
        exact closeSession_of_known _ token known
      · rw [closeSession_of_unknown sim token known]
        exact closeSession_of_unknown _ token known
  | _ => exact inSession _

@[simp] private theorem portalWords_setPortalWords (sim : Simulator) (portal : HostAddress)
    (words : Command) : (sim.setPortalWords portal words).portalWords portal = words := by
  simp [setPortalWords, portalWords]

private def without (portal : HostAddress) (sim : Simulator) : Simulator :=
  sim.withPortals (sim.portals.erase portal.value)

private theorem keeps_registers (portal : HostAddress) :
    (registers portal).Keeps (fun sim => sim.portalWords portal) (without portal) where
  write index value sim := by
    rw [show (registers portal).write _ value sim = _ from if_neg (parameterOffset_ne_zero index)]
    refine ⟨?_, congrArg sim.withPortals (Std.ExtTreeMap.ext_getElem? fun other => ?_)⟩
    · rw [portalWords_setPortalWords, storeAt_parameterOffset]
    · rw [setPortalWords, Std.ExtTreeMap.getElem?_erase, Std.ExtTreeMap.getElem?_erase,
        Std.ExtTreeMap.getElem?_insert]
      split <;> rfl
  read index sim := ⟨wordAt_parameterOffset _ index, rfl, rfl⟩

private theorem eq_of_without {portal : HostAddress} {left right : Simulator}
    (same : without portal left = without portal right) :
    left = right.withPortals left.portals ∧
      ∀ other, other ≠ portal.value → left.portals[other]? = right.portals[other]? := by
  refine ⟨?_, fun other apart => ?_⟩
  · have shown := congrArg (fun sim : Simulator => sim.withPortals left.portals) same
    exact shown
  · have shown := congrArg (fun sim : Simulator => sim.portals[other]?) same
    have different : ¬ compare portal.value other = .eq :=
      mt Std.LawfulEqOrd.eq_of_compare apart.symm
    simpa only [without, withPortals, Std.ExtTreeMap.getElem?_erase, if_neg different] using shown

def told (call : Call) : Except Status call.Reply → Result call.Reply
  | .ok reply => .ok (call.settled reply)
  | .error status => .error (.firmware call.name status)

private theorem verdict_respond (command : Command) (call : Call)
    (outcome : Except Status call.Reply)
    (proper : ∀ status, outcome = .error status → status.Refuses) :
    (respond command call outcome).status ≠ .ready ∧
      (verdict call.name (respond command call outcome)).map (Call.readReply · call) =
        told call outcome := by
  cases outcome with
  | ok reply =>
      have status : (respond command call (.ok reply)).status = .ok :=
        Command.status_withStatus .ok _
      refine ⟨by rw [status]; exact nofun, ?_⟩
      rw [verdict_of_ok _ _ status]
      exact congrArg Except.ok (Call.readReply_writeReply _ .ok call reply)
  | error status =>
      obtain ⟨readBack, notReady, notOk⟩ := proper status rfl
      have shown : (respond command call (.error status)).status = status :=
        (Command.status_withStatus status _).trans readBack
      refine ⟨by rwa [shown], ?_⟩
      rw [verdict_of_refusal _ _ (by rwa [shown]), shown]
      rfl

def response (sim : Simulator) (call : Call) : Command :=
  respond call.encode call (sim.serve call).1

theorem execute_encode (sim : Simulator) (call : Call) :
    sim.execute call.encode = (sim.response call, (sim.serve call).2) := by
  unfold execute
  rw [Call.ofCommand?_encode]
  rfl

theorem execute_withPortals (sim : Simulator) (portals : Std.ExtTreeMap Nat Command compare)
    (command : Command) :
    (sim.withPortals portals).execute command =
      ((sim.execute command).1, (sim.execute command).2.withPortals portals) := by
  unfold execute
  cases Call.ofCommand? command with
  | none => rfl
  | some call => simp only [serve_withPortals]

/-- Whatever is asked of the firmware, it does not keep its caller waiting. -/
theorem statusByte_execute (sim : Simulator) (command : Command) :
    statusByte (sim.execute command).1.header ≠ 1 := by
  refine mt (headerStatus_eq_ready_iff _).mpr ?_
  change (sim.execute command).1.status ≠ .ready
  unfold execute
  cases Call.ofCommand? command with
  | none =>
      rw [Command.status_withStatus]
      split <;> exact nofun
  | some call =>
      exact (verdict_respond command call (sim.serve call).1 (refuses_of_serve sim call)).1

theorem statusByte_response (sim : Simulator) (call : Call) :
    statusByte (sim.response call).header ≠ 1 := by
  have settled := sim.statusByte_execute call.encode
  rwa [execute_encode] at settled

private theorem submit_registers (portal : HostAddress) (command : Command) (sim : Simulator) :
    ∃ portals, (registers portal).submit command sim =
        ((sim.execute command).2.withPortals portals).setPortalWords portal
          (sim.execute command).1 ∧
      ∀ other, other ≠ portal.value → portals[other]? = sim.portals[other]? := by
  obtain ⟨prepared, submitted, assembled, aside⟩ := (keeps_registers portal).submit command sim
  obtain ⟨same, others⟩ := eq_of_without aside
  have executed : prepared.execute command =
      ((sim.execute command).1, (sim.execute command).2.withPortals prepared.portals) := by
    rw [same, execute_withPortals]
    rfl
  refine ⟨prepared.portals, submitted.trans ?_, others⟩
  simp only [registers, writePortal, assembled, executed, if_true]

/-- The first look at the header finds the response to the command, whatever its words, and the
parameters behind it are its own. -/
theorem send_command (portal : HostAddress) (poll : PollConfig)
    (patient : 0 < poll.maximumPolls.toNat) (operation : String) (command : Command)
    (sim : Simulator) :
    (∃ portals, (registers portal).send poll operation command sim =
        (verdict operation (sim.execute command).1, (sim.execute command).2.withPortals portals) ∧
      ∀ other, other ≠ portal.value → portals[other]? = sim.portals[other]?) ∧
    (registers portal).accesses poll command sim =
      submission command ++ polls [(sim.execute command).1.header] ++
        collection (sim.execute command).1 := by
  obtain ⟨portals, submitted, others⟩ := submit_registers portal command sim
  generalize arrived : ((sim.execute command).2.withPortals portals).setPortalWords portal
    (sim.execute command).1 = world at submitted
  have shows : world.portalWords portal = (sim.execute command).1 := by
    rw [← arrived, portalWords_setPortalWords]
  obtain ⟨more, enough⟩ := Nat.exists_eq_succ_of_ne_zero (Nat.ne_of_gt patient)
  have settled := sim.statusByte_execute command
  have first : (registers portal).read 0 world = ((sim.execute command).1.header, world) := by
    rw [← shows]
    rfl
  have awaited : (registers portal).await poll.maximumPolls.toNat
      ((registers portal).submit command sim) =
        (some (sim.execute command).1.header, world) := by
    rw [submitted, enough, Registers.await_succ _ _ first, if_neg settled]
  have looked : (registers portal).looks poll.maximumPolls.toNat
      ((registers portal).submit command sim) = [(sim.execute command).1.header] := by
    rw [submitted, enough, Registers.looks_succ _ _ first, if_neg settled]
  obtain ⟨collected, -, aside⟩ := (keeps_registers portal).collect world
  rw [shows] at collected aside
  obtain ⟨same, still⟩ := eq_of_without aside
  rw [Registers.send_of_answered _ _ _ _ _ awaited,
    Registers.accesses_of_answered _ _ _ _ awaited, collected, looked]
  refine ⟨⟨((registers portal).collect (sim.execute command).1.header world).2.portals, ?_,
    fun other apart => ?_⟩, rfl⟩
  · refine Prod.ext rfl (same.trans ?_)
    rw [← arrived]
    rfl
  · rw [still other apart, ← others other apart, ← arrived, setPortalWords,
      Std.ExtTreeMap.getElem?_insert]
    exact if_neg (mt Std.LawfulEqOrd.eq_of_compare apart.symm)

theorem send_registers (portal : HostAddress) (poll : PollConfig)
    (patient : 0 < poll.maximumPolls.toNat) (call : Call) (sim : Simulator) :
    (∃ portals, (registers portal).send poll call.name call.encode sim =
        (verdict call.name (sim.response call), (sim.serve call).2.withPortals portals) ∧
      ∀ other, other ≠ portal.value → portals[other]? = sim.portals[other]?) ∧
    (registers portal).accesses poll call.encode sim =
      submission call.encode ++ polls [(sim.response call).header] ++
        collection (sim.response call) := by
  have sent := send_command portal poll patient call.name call.encode sim
  rwa [execute_encode] at sent

/-- A call through a portal's registers comes to what the firmware makes of it. The machine is
then the firmware's, up to what this portal shows. -/
theorem request_registers (portal : HostAddress) (poll : PollConfig)
    (patient : 0 < poll.maximumPolls.toNat) (call : Call) (sim : Simulator) :
    ∃ portals, (registers portal).request poll call sim =
        (told call (sim.serve call).1, (sim.serve call).2.withPortals portals) ∧
      ∀ other, other ≠ portal.value → portals[other]? = sim.portals[other]? := by
  obtain ⟨⟨portals, sent, others⟩, -⟩ := send_registers portal poll patient call sim
  refine ⟨portals, ?_, others⟩
  unfold Registers.request
  rw [sent]
  exact Prod.ext
    (verdict_respond call.encode call (sim.serve call).1 (refuses_of_serve sim call)).2 rfl

end Simulator

end Passthrough
