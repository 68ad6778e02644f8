import Passthrough.Portal.Scripted
import Passthrough.Proofs.Command.WordLaws
import Passthrough.Proofs.Portal.Access
import Passthrough.Proofs.Portal.Cells

set_option autoImplicit false

/-! Commands sent one after another to a portal that answers by a script. What comes of a
command hangs on the command and on the reply whose turn it is, and on nothing that was
sent before: not on what earlier replies left in the registers, nor on a reply that
was given up and never arrived. -/

namespace Passthrough.Portal

def Registers.converse {World : Type} (registers : Registers World) (poll : PollConfig) :
    List (String × Command) → World → List (Result Command × List Access)
  | [], _ => []
  | (operation, command) :: later, world =>
      let ended := registers.tapped.send poll operation command ⟨world, []⟩
      (ended.1, ended.2.accesses) :: registers.converse poll later ended.2.world

namespace Scripted

/-! ### What a reply writes -/

theorem statusByte_deliver (reply : Reply) (cells : Command) :
    statusByte (Reply.deliver reply cells).header = reply.status := by
  rw [statusByte_eq_read, Reply.deliver, Command.Field.read_write _ _ _ _ (by omega),
    Command.Field.toUInt8_read]

theorem token_deliver (reply : Reply) (cells : Command) :
    (Reply.deliver reply cells).token = reply.token.getD cells.token := by
  unfold Reply.deliver Command.token
  rw [Command.Field.read_write_of_disjoint 16 8 32 16 _ _ (by omega) (by omega) (by omega)]
  cases reply.token with
  | none => rfl
  | some token => exact Command.token_withToken token cells

theorem getLsbD_deliver (reply : Reply) (cells : Command) (index : Nat) (inside : index < 64)
    (notStatus : index < 16 ∨ 24 ≤ index)
    (notToken : reply.token = none ∨ index < 32 ∨ 48 ≤ index) :
    (Reply.deliver reply cells).header.toBitVec.getLsbD index =
      cells.header.toBitVec.getLsbD index := by
  unfold Reply.deliver
  rw [Command.Field.getLsbD_write _ _ _ _ _ (by omega) inside, if_neg (by omega)]
  cases named : reply.token with
  | none => rfl
  | some token =>
      have apart := notToken.resolve_left (by simp [named])
      unfold Command.withToken
      rw [Command.Field.getLsbD_write _ _ _ _ _ (by omega) inside, if_neg (by omega)]

/-! ### One command -/

theorem keeps_registers :
    registers.Keeps Scripted.cells (fun device => (device.pending, device.script)) where
  write index value device := by
    rw [show registers.write _ value device = _ from if_neg (parameterOffset_ne_zero index)]
    exact ⟨storeAt_parameterOffset device.cells index value, rfl⟩
  read index device := by
    have still : (if Command.parameterOffset index = 0 then device.proceed else device) = device :=
      if_neg (parameterOffset_ne_zero index)
    simp [registers, read, still, wordAt_parameterOffset]

theorem read_header (device : Scripted) : ∃ after,
    registers.read 0 device = (device.proceed.cells.header, after) ∧
      after.cells = device.proceed.cells ∧ after.pending = device.proceed.pending ∧
      after.script = device.proceed.script :=
  ⟨_, rfl, rfl, rfl, rfl⟩

theorem await_stuck (remaining : Nat) (device : Scripted) (idle : device.pending = none)
    (pending : statusByte device.cells.header = 1) :
    registers.looks remaining device = List.replicate remaining device.cells.header ∧
      ∃ after, registers.await remaining device = (none, after) ∧
        after.script = device.script := by
  induction remaining generalizing device with
  | zero => exact ⟨rfl, device, rfl, rfl⟩
  | succ remaining ih =>
      -- With no reply under way a read changes nothing, and the header stays what it is.
      obtain ⟨after, first, cells, still, script⟩ := read_header device
      have same : device.proceed = device := by simp [proceed, idle]
      rw [same] at first cells still script
      rw [registers.looks_succ remaining first, registers.await_succ remaining first,
        if_pos pending, if_pos pending, List.replicate_succ, ← cells, ← script]
      rw [← cells] at pending
      obtain ⟨looked, ended⟩ := ih after (still.trans idle) pending
      exact ⟨congrArg _ looked, ended⟩

theorem read_header_early (device : Scripted) (reply : Reply) (busy : Nat)
    (underway : device.pending = some { reply with busy := busy + 1 }) : ∃ after,
    registers.read 0 device = (device.cells.header, after) ∧ after.cells = device.cells ∧
      after.pending = some { reply with busy := busy } ∧ after.script = device.script := by
  have waited : device.proceed = { device with pending := some { reply with busy := busy } } := by
    simp [proceed, underway]
  have first := read_header device
  rwa [waited] at first

theorem await_given_up (remaining : Nat) (device : Scripted) (reply : Reply)
    (underway : device.pending = some reply) (pending : statusByte device.cells.header = 1)
    (few : remaining ≤ reply.busy) :
    registers.looks remaining device = List.replicate remaining device.cells.header ∧
      ∃ after, registers.await remaining device = (none, after) ∧
        after.script = device.script := by
  induction remaining generalizing device reply with
  | zero => exact ⟨rfl, device, rfl, rfl⟩
  | succ remaining ih =>
      obtain ⟨busy, status, token, parameters⟩ := reply
      cases busy with
      | zero => exact absurd few (Nat.not_succ_le_zero remaining)
      | succ busy =>
          obtain ⟨after, first, cells, still, script⟩ :=
            read_header_early device ⟨busy, status, token, parameters⟩ busy underway
          rw [registers.looks_succ remaining first, registers.await_succ remaining first,
            if_pos pending, if_pos pending, List.replicate_succ, ← cells, ← script]
          rw [← cells] at pending
          obtain ⟨looked, ended⟩ := ih after _ still pending (Nat.le_of_succ_le_succ few)
          exact ⟨congrArg _ looked, ended⟩

theorem await_delivered (remaining : Nat) (device : Scripted) (reply : Reply)
    (underway : device.pending = some reply) (pending : statusByte device.cells.header = 1)
    (enough : reply.busy < remaining) :
    ∃ reached : Scripted, reached.cells = Reply.deliver reply device.cells ∧
      reached.pending = none ∧ reached.script = device.script ∧
      registers.looks remaining device = List.replicate reply.busy device.cells.header ++
        (if reply.status = 1 then
          reached.cells.header :: registers.looks (remaining - reply.busy - 1) reached
        else [reached.cells.header]) ∧
      registers.await remaining device =
        if reply.status = 1 then registers.await (remaining - reply.busy - 1) reached
        else (some reached.cells.header, reached) := by
  induction remaining generalizing device reply with
  | zero => omega
  | succ remaining ih =>
      obtain ⟨busy, status, token, parameters⟩ := reply
      cases busy with
      | zero =>
          -- The reply is due: this look brings it, and its status decides whether to look on.
          obtain ⟨after, first, cells, still, script⟩ := read_header device
          have arrived : device.proceed = { device with
              pending := none
              cells := Reply.deliver ⟨0, status, token, parameters⟩ device.cells } := by
            simp [proceed, underway]
          rw [arrived] at first cells still script
          have byte := statusByte_deliver ⟨0, status, token, parameters⟩ device.cells
          refine ⟨after, cells, still, script, ?_⟩
          rw [registers.looks_succ remaining first, registers.await_succ remaining first, cells,
            byte]
          exact ⟨rfl, rfl⟩
      | succ busy =>
          obtain ⟨after, first, cells, still, script⟩ :=
            read_header_early device ⟨busy, status, token, parameters⟩ busy underway
          rw [registers.looks_succ remaining first, registers.await_succ remaining first,
            if_pos pending, if_pos pending]
          rw [← cells] at pending
          obtain ⟨reached, delivered, idle, kept, looked, awaited⟩ :=
            ih after _ still pending (Nat.lt_of_succ_lt_succ enough)
          rw [cells] at delivered
          refine ⟨reached, delivered, idle, kept.trans script, ?_, ?_⟩
          · rw [looked, cells, List.replicate_succ, Nat.succ_sub_succ]
            rfl
          · rw [awaited, Nat.succ_sub_succ]

/-- What a reply makes of a command, and how the registers are used for it. -/
def meet (reply : Reply) (poll : PollConfig) (operation : String) (command : Command) :
    Result Command × List Access :=
  let settled := Reply.deliver reply command
  let early := List.replicate (min reply.busy poll.maximumPolls.toNat) command.header
  if poll.maximumPolls.toNat ≤ reply.busy then
    (.error (.firmwareTimeout operation poll.maximumPolls), submission command ++ polls early)
  else if reply.status = 1 then
    (.error (.firmwareTimeout operation poll.maximumPolls), submission command ++ polls (early ++
      List.replicate (poll.maximumPolls.toNat - reply.busy) settled.header))
  else
    (verdict operation settled,
      submission command ++ polls (early ++ [settled.header]) ++ collection settled)

theorem submit_scripted (command : Command) (device : Scripted) :
    let submitted := registers.submit command device
    submitted.cells = command ∧ submitted.pending = device.script.head? ∧
      submitted.script = advance device.script := by
  obtain ⟨prepared, submitted, assembled, aside⟩ := keeps_registers.submit command device
  obtain ⟨-, script⟩ := Prod.mk.inj aside
  rw [submitted, ← script]
  exact ⟨assembled, rfl, rfl⟩

theorem send_scripted (poll : PollConfig) (operation : String) (command : Command)
    (device : Scripted) (reply : Reply) (next : device.script.head? = some reply)
    (ready : command.status = .ready) :
    ((registers.send poll operation command device).1,
        registers.accesses poll command device) = meet reply poll operation command ∧
      (registers.send poll operation command device).2.script = advance device.script := by
  obtain ⟨cells, underway, script⟩ := submit_scripted command device
  rw [next] at underway
  have pending : statusByte (registers.submit command device).cells.header = 1 := by
    rw [cells]
    exact (headerStatus_eq_ready_iff _).mp ready
  unfold meet
  by_cases few : poll.maximumPolls.toNat ≤ reply.busy
  · obtain ⟨looked, after, awaited, kept⟩ := await_given_up _ _ reply underway pending few
    rw [cells] at looked
    rw [if_pos few, Nat.min_eq_right few, registers.send_of_exhausted poll _ _ _ awaited,
      registers.accesses_of_exhausted poll _ _ awaited, looked]
    exact ⟨rfl, kept.trans script⟩
  · rw [if_neg few, Nat.min_eq_left (by omega)]
    obtain ⟨reached, delivered, idle, kept, looked, awaited⟩ :=
      await_delivered _ _ reply underway pending (Nat.lt_of_not_ge few)
    rw [cells] at delivered looked
    have byte : statusByte reached.cells.header = reply.status := by
      rw [delivered, statusByte_deliver]
    by_cases stuck : reply.status = 1
    · obtain ⟨all, after, nothing, still⟩ := await_stuck
        (poll.maximumPolls.toNat - reply.busy - 1) reached idle (byte.trans stuck)
      rw [if_pos stuck, nothing] at awaited
      rw [if_pos stuck, all, ← List.replicate_succ,
        show poll.maximumPolls.toNat - reply.busy - 1 + 1 = poll.maximumPolls.toNat - reply.busy
          by omega, delivered] at looked
      rw [if_pos stuck, registers.send_of_exhausted poll _ _ _ awaited,
        registers.accesses_of_exhausted poll _ _ awaited, looked]
      exact ⟨rfl, (still.trans kept).trans script⟩
    · obtain ⟨collected, -, aside⟩ := keeps_registers.collect reached
      rw [if_neg stuck] at awaited looked
      rw [if_neg stuck, registers.send_of_answered poll _ _ _ awaited,
        registers.accesses_of_answered poll _ _ awaited, looked, collected, delivered]
      exact ⟨rfl, ((Prod.mk.inj aside).2.trans kept).trans script⟩

/-! ### How often the header is read -/

def isLook : Access → Bool
  | .read offset _ => offset == 0
  | .write _ _ => false

theorem countP_submission (command : Command) : (submission command).countP isLook = 0 := by
  rw [List.countP_eq_zero]
  intro access member
  rcases List.mem_append.mp member with parameter | header
  · obtain ⟨index, -, rfl⟩ := List.mem_map.mp parameter
    simp [isLook]
  · rw [List.mem_singleton.mp header]
    simp [isLook]

theorem countP_polls (headers : List UInt64) : (polls headers).countP isLook = headers.length := by
  induction headers with
  | nil => rfl
  | cons header later ih =>
      rw [polls, List.map_cons, List.countP_cons_of_pos rfl]
      exact congrArg Nat.succ ih

theorem countP_collection (response : Command) : (collection response).countP isLook = 0 := by
  rw [List.countP_eq_zero]
  intro access member
  obtain ⟨index, -, rfl⟩ := List.mem_map.mp member
  simp [isLook]

/-- What a host can rely on when it meets a reply. -/
structure Meets (reply : Reply) (poll : PollConfig) (operation : String) (command : Command)
    (result : Result Command) (accesses : List Access) : Prop where
  timeout : result = .error (.firmwareTimeout operation poll.maximumPolls) ↔
    poll.maximumPolls.toNat ≤ reply.busy ∨ reply.status = 1
  looks : accesses.countP isLook =
    if reply.status = 1 then poll.maximumPolls.toNat
    else min (reply.busy + 1) poll.maximumPolls.toNat
  response : ¬ (poll.maximumPolls.toNat ≤ reply.busy ∨ reply.status = 1) →
    ∃ response : Command,
      accesses = submission command ++
        polls (List.replicate reply.busy command.header ++ [response.header]) ++
          collection response ∧
      result = (if reply.status = 0 then .ok response
        else .error (.firmware operation (Status.ofByte reply.status))) ∧
      statusByte response.header = reply.status ∧
      response.token = reply.token.getD command.token ∧
      (∀ index < 64, index < 16 ∨ 24 ≤ index →
        reply.token = none ∨ index < 32 ∨ 48 ≤ index →
          response.header.toBitVec.getLsbD index = command.header.toBitVec.getLsbD index) ∧
      response.parameters = reply.parameters

theorem meets (reply : Reply) (poll : PollConfig) (operation : String) (command : Command) :
    Meets reply poll operation command (meet reply poll operation command).1
      (meet reply poll operation command).2 := by
  unfold meet
  by_cases few : poll.maximumPolls.toNat ≤ reply.busy
  · rw [if_pos few]
    constructor
    · exact ⟨fun _ => Or.inl few, fun _ => rfl⟩
    · simp only [List.countP_append, countP_submission, countP_polls, List.length_replicate]
      split <;> omega
    · exact fun inTime => absurd (Or.inl few) inTime
  · rw [if_neg few]
    by_cases stuck : reply.status = 1
    · rw [if_pos stuck]
      constructor
      · exact ⟨fun _ => Or.inr stuck, fun _ => rfl⟩
      · simp only [List.countP_append, countP_submission, countP_polls, List.length_append,
          List.length_replicate, if_pos stuck]
        omega
      · exact fun inTime => absurd (Or.inr stuck) inTime
    · rw [if_neg stuck, Nat.min_eq_left (by omega)]
      have byte := statusByte_deliver reply command
      constructor
      · refine ⟨fun late => ?_, fun late => absurd late (not_or.mpr ⟨few, stuck⟩)⟩
        simp only [verdict] at late
        split at late <;> cases late
      · simp only [List.countP_append, countP_submission, countP_polls, countP_collection,
          List.length_append, List.length_replicate, List.length_singleton, if_neg stuck]
        omega
      · intro _
        refine ⟨Reply.deliver reply command, rfl, ?_, byte, token_deliver reply command,
          fun index => getLsbD_deliver reply command index, rfl⟩
        rw [verdict, byte]

/-! ### A row of commands -/

theorem getElem?_advance (script : List Reply) (turn : Nat) (nonempty : script ≠ []) :
    (advance script)[min turn ((advance script).length - 1)]? =
      script[min (turn + 1) (script.length - 1)]? := by
  match script with
  | [last] => simp [advance]
  | first :: second :: later =>
      have next : min (turn + 1) (later.length + 1) = min turn later.length + 1 := by omega
      simp [advance, next]

theorem converse_getElem? (poll : PollConfig) (messages : List (String × Command))
    (ready : ∀ message ∈ messages, message.2.status = .ready) (device : Scripted) (turn : Nat)
    (reply : Reply)
    (due : device.script[min turn (device.script.length - 1)]? = some reply) :
    (registers.converse poll messages device)[turn]? =
      messages[turn]?.map fun message => meet reply poll message.1 message.2 := by
  induction messages generalizing device turn with
  | nil => rfl
  | cons message later ih =>
      obtain ⟨first, readyLater⟩ := List.forall_mem_cons.mp ready
      have nonempty : device.script ≠ [] := fun none => by simp [none] at due
      obtain ⟨next, upcoming⟩ :=
        Option.ne_none_iff_exists'.mp (mt List.head?_eq_none_iff.mp nonempty)
      obtain ⟨met, advanced⟩ :=
        send_scripted poll message.1 message.2 device next upcoming first
      rw [Registers.converse, registers.send_tapped]
      cases turn with
      | zero =>
          rw [List.head?_eq_getElem?] at upcoming
          rw [Nat.zero_min, upcoming] at due
          cases due
          exact congrArg some met
      | succ turn =>
          -- Only the script of the device that is left matters; the rest is overwritten.
          rw [List.getElem?_cons_succ, List.getElem?_cons_succ]
          apply ih readyLater
          rw [← due, ← getElem?_advance _ _ nonempty]
          simp [advanced]

theorem length_converse {World : Type} (registers : Registers World) (poll : PollConfig)
    (messages : List (String × Command)) (world : World) :
    (registers.converse poll messages world).length = messages.length := by
  induction messages generalizing world with
  | nil => rfl
  | cons message later ih => exact congrArg Nat.succ (ih _)

/-- What comes of a command hangs on that command, on the reply whose turn it is and on how long
the host waits: another row, over another device with other words in its registers and another
script, ends the same way wherever these are the same. -/
theorem converse_independent (device : Scripted) (nonempty : device.script ≠ [])
    (poll : PollConfig) (messages : List (String × Command))
    (ready : ∀ message ∈ messages, message.2.status = .ready) :
    (registers.converse poll messages device).length = messages.length ∧
      ∀ (turn : Nat) (operation : String) (command : Command),
        messages[turn]? = some (operation, command) →
        ∃ reply result accesses,
          device.script[min turn (device.script.length - 1)]? = some reply ∧
          (registers.converse poll messages device)[turn]? = some (result, accesses) ∧
          Meets reply poll operation command result accesses ∧
          ∀ (other : Scripted) (others : List (String × Command)) (place : Nat),
            (∀ message ∈ others, message.2.status = .ready) →
            other.script[min place (other.script.length - 1)]? = some reply →
            others[place]? = some (operation, command) →
            (registers.converse poll others other)[place]? = some (result, accesses) := by
  refine ⟨length_converse registers poll messages device, ?_⟩
  intro turn operation command sent
  have within : min turn (device.script.length - 1) < device.script.length := by
    have := List.length_pos_iff.mpr nonempty
    omega
  have due := List.getElem?_eq_getElem within
  generalize device.script[min turn (device.script.length - 1)] = reply at due
  refine ⟨reply, (meet reply poll operation command).1, (meet reply poll operation command).2,
    due, ?_, meets reply poll operation command, ?_⟩
  · rw [converse_getElem? poll messages ready device turn reply due, sent]
    rfl
  · intro other others place otherReady otherDue otherSent
    rw [converse_getElem? poll others otherReady other place reply otherDue, otherSent]
    rfl

/-- The first reply is given up on, and the second is met as if it were the only one. -/
theorem converse_independent_after_abandoned :
    let poll : PollConfig := { maximumPolls := 3, yieldInterval := 1 }
    let reply : Reply := ⟨1, 0, none, Vector.replicate 7 2⟩
    let device := ofScript [⟨100, 0, some ⟨9⟩, Vector.replicate 7 1⟩, reply]
    let asking := ("get_time_of_day", Call.encode (.timeOfDay ⟨2⟩))
    let messages := [("close", Call.encode (.closeSession ⟨1⟩)), asking]
    let answers := registers.converse poll messages device
    answers.head?.map Prod.fst = some (.error (.firmwareTimeout "close" 3)) ∧
      ∃ result accesses, answers[1]? = some (result, accesses) ∧
        Meets reply poll asking.1 asking.2 result accesses ∧
        (registers.converse poll [asking] (ofScript [reply]))[0]? = some (result, accesses) := by
  intro poll reply device asking messages answers
  refine ⟨by decide +kernel, ?_⟩
  obtain ⟨-, each⟩ := converse_independent device (List.cons_ne_nil _ _) poll
    messages (by decide +kernel)
  obtain ⟨found, result, accesses, due, answered, met, same⟩ := each 1 asking.1 asking.2 rfl
  cases due
  exact ⟨result, accesses, answered, met,
    same (ofScript [reply]) [asking] 0 (by decide +kernel) rfl rfl⟩

end Scripted

end Passthrough.Portal
