import Mathlib.Data.List.FinRange
import Passthrough.Portal.Registers
import Passthrough.Proofs.Command.FieldLaws

set_option autoImplicit false

/-! Tapping the registers of a portal. Tapped registers are those of the device, and every
read and write is put on record with its offset and its word, in the order in which they
were made. The device may be any: what a read returns can hang on all that went before. -/

namespace Passthrough

namespace Status

theorem ofByte_eq_ready_iff (byte : UInt8) : ofByte byte = .ready ↔ byte = 1 := by
  constructor
  · intro ready
    rw [← byte_ofByte byte, ready]
    rfl
  · rintro rfl
    rfl

theorem ofByte_eq_ok_iff (byte : UInt8) : ofByte byte = .ok ↔ byte = 0 := by
  constructor
  · intro ok
    rw [← byte_ofByte byte, ok]
    rfl
  · rintro rfl
    rfl

end Status

namespace Portal

/-- The third byte of a header from below. -/
def statusByte (header : UInt64) : UInt8 :=
  (header >>> 16).toUInt8

theorem statusByte_eq_read (header : UInt64) :
    statusByte header = (Command.Field.read 16 8 header).toUInt8 := by
  apply UInt8.eq_of_toBitVec_eq
  apply BitVec.eq_of_getLsbD_eq
  intro index inside
  have bit := Command.Field.getLsbD_read 16 8 index header (by omega)
  simp only [statusByte, UInt64.toBitVec_toUInt8, BitVec.getLsbD_setWidth, bit, inside,
    decide_true, Bool.true_and, UInt64.toBitVec_shiftRight, BitVec.ushiftRight_eq',
    BitVec.getLsbD_ushiftRight]
  rfl

theorem headerStatus_eq (header : UInt64) :
    Command.headerStatus header = Status.ofByte (statusByte header) := by
  rw [Command.headerStatus, statusByte_eq_read]

theorem headerStatus_eq_ready_iff (header : UInt64) :
    Command.headerStatus header = .ready ↔ statusByte header = 1 := by
  rw [headerStatus_eq, Status.ofByte_eq_ready_iff]

inductive Access where
  | read (offset : Nat) (value : UInt64)
  | write (offset : Nat) (value : UInt64)
  deriving DecidableEq

def Access.offset : Access → Nat
  | .read offset _ => offset
  | .write offset _ => offset

/-- A world, and how its registers were used so far, the oldest access first. -/
structure Tapped (World : Type) where
  world : World
  accesses : List Access

variable {World : Type}

def Tapped.push (start : Tapped World) (world : World) (accesses : List Access) : Tapped World :=
  { world := world, accesses := start.accesses ++ accesses }

@[simp]
theorem Tapped.push_world (start : Tapped World) (world : World) (accesses : List Access) :
    (start.push world accesses).world = world := rfl

@[simp]
theorem Tapped.push_push (start : Tapped World) (first second : World)
    (earlier later : List Access) :
    (start.push first earlier).push second later = start.push second (earlier ++ later) := by
  simp [push]

def Registers.tapped (registers : Registers World) : Registers (Tapped World) :=
  { read := fun offset start =>
      let ended := registers.read offset start.world
      (ended.1, start.push ended.2 [.read offset ended.1])
    write := fun offset value start =>
      start.push (registers.write offset value start.world) [.write offset value] }

def submission (command : Command) : List Access :=
  (List.finRange Command.parameterCount).map
      (fun index => .write (8 * (index.val + 1)) (command.parameters.get index)) ++
    [.write 0 command.header]

def polls (headers : List UInt64) : List Access :=
  headers.map (.read 0)

def collection (response : Command) : List Access :=
  (List.finRange Command.parameterCount).map
    fun index => .read (8 * (index.val + 1)) (response.parameters.get index)

def verdict (operation : String) (response : Command) : Result Command :=
  if statusByte response.header = 0 then .ok response
  else .error (.firmware operation (Status.ofByte (statusByte response.header)))

theorem verdict_of_ok (operation : String) (response : Command) (done : response.status = .ok) :
    verdict operation response = .ok response := by
  unfold Command.status at done
  rw [headerStatus_eq, Status.ofByte_eq_ok_iff] at done
  exact if_pos done

theorem verdict_of_refusal (operation : String) (response : Command)
    (refused : response.status ≠ .ok) :
    verdict operation response = .error (.firmware operation response.status) := by
  have shown : response.status = Status.ofByte (statusByte response.header) := headerStatus_eq _
  rw [shown] at refused ⊢
  exact if_neg (mt (Status.ofByte_eq_ok_iff _).mpr refused)

namespace Registers

variable (registers : Registers World)

private theorem foldl_write_tapped (command : Command) (items : List (Fin Command.parameterCount))
    (start : Tapped World) :
    items.foldl (fun start (index : Fin Command.parameterCount) =>
        registers.tapped.write (Command.parameterOffset index) (command.parameters.get index)
          start) start =
      start.push
        (items.foldl (fun world (index : Fin Command.parameterCount) =>
          registers.write (Command.parameterOffset index) (command.parameters.get index) world)
            start.world)
        (items.map fun index =>
          .write (8 * (index.val + 1)) (command.parameters.get index)) := by
  induction items generalizing start with
  | nil => simp [Tapped.push]
  | cons head rest ih =>
      rw [List.foldl_cons, ih]
      simp [Tapped.push, tapped, Command.parameterOffset]

theorem submit_tapped (command : Command) (start : Tapped World) :
    registers.tapped.submit command start =
      start.push (registers.submit command start.world) (submission command) := by
  unfold submit
  rw [foldl_write_tapped]
  simp [Tapped.push, tapped, submission]

def looks : Nat → World → List UInt64
  | 0, _ => []
  | remaining + 1, world =>
      let (header, world) := registers.read 0 world
      if Command.headerStatus header = .ready then header :: looks remaining world else [header]

theorem await_succ (remaining : Nat) {world after : World} {header : UInt64}
    (first : registers.read 0 world = (header, after)) :
    registers.await (remaining + 1) world =
      if statusByte header = 1 then registers.await remaining after else (some header, after) := by
  simp [await, first, headerStatus_eq_ready_iff]

theorem looks_succ (remaining : Nat) {world after : World} {header : UInt64}
    (first : registers.read 0 world = (header, after)) :
    registers.looks (remaining + 1) world =
      if statusByte header = 1 then header :: registers.looks remaining after else [header] := by
  simp [looks, first, headerStatus_eq_ready_iff]

theorem await_tapped (remaining : Nat) (start : Tapped World) :
    registers.tapped.await remaining start =
      ((registers.await remaining start.world).1,
        start.push (registers.await remaining start.world).2
          (polls (registers.looks remaining start.world))) := by
  induction remaining generalizing start with
  | zero => simp [await, looks, Tapped.push, polls]
  | succ remaining ih =>
      cases first : registers.read 0 start.world with
      | mk header after =>
          have tapped : registers.tapped.read 0 start =
              (header, start.push after [.read 0 header]) := by
            simp [Registers.tapped, first]
          rw [registers.tapped.await_succ remaining tapped, registers.await_succ remaining first,
            registers.looks_succ remaining first]
          by_cases pending : statusByte header = 1
          · rw [if_pos pending, if_pos pending, if_pos pending, ih]
            simp [polls]
          · rw [if_neg pending, if_neg pending, if_neg pending]
            rfl

theorem looks_cases (remaining : Nat) (world : World) :
    ((registers.await remaining world).1 = none ∧
        (registers.looks remaining world).length = remaining ∧
        ∀ header ∈ registers.looks remaining world, statusByte header = 1) ∨
      ∃ (earlier : List UInt64) (header : UInt64),
        (registers.await remaining world).1 = some header ∧
        registers.looks remaining world = earlier ++ [header] ∧ earlier.length < remaining ∧
        (∀ pending ∈ earlier, statusByte pending = 1) ∧ statusByte header ≠ 1 := by
  induction remaining generalizing world with
  | zero => exact Or.inl ⟨rfl, rfl, nofun⟩
  | succ remaining ih =>
      cases first : registers.read 0 world with
      | mk header after =>
          rw [registers.await_succ remaining first, registers.looks_succ remaining first]
          by_cases pending : statusByte header = 1
          · rw [if_pos pending, if_pos pending]
            rcases ih after with
              ⟨nothing, count, all⟩ | ⟨earlier, found, answered, seen, few, all, done⟩
            · exact Or.inl ⟨nothing, congrArg Nat.succ count,
                List.forall_mem_cons.mpr ⟨pending, all⟩⟩
            · exact Or.inr ⟨header :: earlier, found, answered, congrArg (header :: ·) seen,
                Nat.succ_lt_succ few, List.forall_mem_cons.mpr ⟨pending, all⟩, done⟩
          · rw [if_neg pending, if_neg pending]
            exact Or.inr ⟨[], header, rfl, rfl, Nat.succ_pos _, nofun, pending⟩

private theorem foldl_read_tapped (items : List (Fin Command.parameterCount))
    (once : items.Nodup) (collected : Vector UInt64 Command.parameterCount)
    (start : Tapped World) :
    let plain := items.foldl (fun (collected, world) (index : Fin Command.parameterCount) =>
      let (value, world) := registers.read (Command.parameterOffset index) world
      (collected.set index.val value index.isLt, world)) (collected, start.world)
    items.foldl (fun (collected, world) (index : Fin Command.parameterCount) =>
        let (value, world) := registers.tapped.read (Command.parameterOffset index) world
        (collected.set index.val value index.isLt, world)) (collected, start) =
      (plain.1, start.push plain.2
        (items.map fun index => .read (8 * (index.val + 1)) (plain.1.get index))) ∧
      ∀ other ∉ items, plain.1.get other = collected.get other := by
  induction items generalizing collected start with
  | nil => exact ⟨by simp [Tapped.push], fun _ _ => rfl⟩
  | cons head rest ih =>
      obtain ⟨apart, distinct⟩ := List.nodup_cons.mp once
      let first := registers.read (Command.parameterOffset head) start.world
      -- No later read is of this parameter, so the word that is collected here stays.
      obtain ⟨reached, kept⟩ := ih distinct (collected.set head.val first.1 head.isLt)
        (start.push first.2 [.read (Command.parameterOffset head) first.1])
      refine ⟨?_, ?_⟩
      · have word := (kept head apart).trans (Vector.getElem_set_self head.isLt)
        rw [List.foldl_cons, List.foldl_cons]
        refine reached.trans (Prod.ext rfl ?_)
        refine (congrArg (Tapped.mk _) (List.append_assoc ..)).trans ?_
        rw [List.map_cons, Tapped.push]
        congr 2
        exact congrArg (fun value => [Access.read _ value] ++ _) word.symm
      · intro other outside
        obtain ⟨different, absent⟩ := not_or.mp (mt List.mem_cons.mpr outside)
        refine (kept other absent).trans ?_
        exact Vector.getElem_set_ne head.isLt other.isLt fun same =>
          different (Fin.ext same).symm

theorem collect_tapped (header : UInt64) (start : Tapped World) :
    registers.tapped.collect header start =
      ((registers.collect header start.world).1,
        start.push (registers.collect header start.world).2
          (collection (registers.collect header start.world).1)) := by
  obtain ⟨reached, -⟩ := registers.foldl_read_tapped (List.finRange Command.parameterCount)
    (List.nodup_finRange _) Command.blank.parameters start
  unfold collect
  rw [reached]
  rfl

theorem send_of_exhausted (poll : PollConfig) (operation : String) (command : Command)
    (world : World) {after : World}
    (awaited : registers.await poll.maximumPolls.toNat (registers.submit command world) =
      (none, after)) :
    registers.send poll operation command world =
      (.error (.firmwareTimeout operation poll.maximumPolls), after) := by
  unfold send
  rw [awaited]

theorem send_of_answered (poll : PollConfig) (operation : String) (command : Command)
    (world : World) {header : UInt64} {after : World}
    (awaited : registers.await poll.maximumPolls.toNat (registers.submit command world) =
      (some header, after)) :
    registers.send poll operation command world =
      (verdict operation (registers.collect header after).1,
        (registers.collect header after).2) := by
  unfold send
  rw [awaited]
  dsimp only
  split
  · next done => rw [verdict_of_ok operation _ done]
  · next refused => rw [verdict_of_refusal operation _ refused]

def accesses (poll : PollConfig) (command : Command) (world : World) : List Access :=
  let submitted := registers.submit command world
  submission command ++ polls (registers.looks poll.maximumPolls.toNat submitted) ++
    match registers.await poll.maximumPolls.toNat submitted with
    | (none, _) => []
    | (some header, world) => collection (registers.collect header world).1

theorem accesses_of_exhausted (poll : PollConfig) (command : Command) (world : World)
    {after : World}
    (awaited : registers.await poll.maximumPolls.toNat (registers.submit command world) =
      (none, after)) :
    registers.accesses poll command world = submission command ++
      polls (registers.looks poll.maximumPolls.toNat (registers.submit command world)) := by
  simp [accesses, awaited]

theorem accesses_of_answered (poll : PollConfig) (command : Command) (world : World)
    {header : UInt64} {after : World}
    (awaited : registers.await poll.maximumPolls.toNat (registers.submit command world) =
      (some header, after)) :
    registers.accesses poll command world = submission command ++
      polls (registers.looks poll.maximumPolls.toNat (registers.submit command world)) ++
        collection (registers.collect header after).1 := by
  simp [accesses, awaited]

section

variable (inert : ∀ offset world, (registers.read offset world).2 = world)

include inert

private theorem await_of_inert (polls : Nat) (world : World) :
    (registers.await polls world).2 = world := by
  induction polls with
  | zero => rfl
  | succ polls ih =>
      unfold await
      dsimp only
      rw [inert]
      split
      · exact ih
      · rfl

private theorem collect_of_inert (header : UInt64) (world : World) :
    (registers.collect header world).2 = world := by
  have still (items : List (Fin Command.parameterCount))
      (start : Vector UInt64 Command.parameterCount × World) :
      (items.foldl (fun (collected, world) (index : Fin Command.parameterCount) =>
        let (value, world) := registers.read (Command.parameterOffset index) world
        (collected.set index.val value index.isLt, world)) start).2 = start.2 := by
    induction items generalizing start with
    | nil => rfl
    | cons head rest ih => exact (ih _).trans (inert _ _)
  exact still (List.finRange Command.parameterCount) (Command.blank.parameters, world)

/-- Where reading changes nothing, a command does no more than the writes that submit it. -/
theorem send_of_inert (poll : PollConfig) (operation : String) (command : Command)
    (world : World) :
    (registers.send poll operation command world).2 = registers.submit command world := by
  have still := registers.await_of_inert inert poll.maximumPolls.toNat
    (registers.submit command world)
  cases awaited : registers.await poll.maximumPolls.toNat (registers.submit command world) with
  | mk found after =>
      rw [awaited] at still
      cases found with
      | none =>
          rw [registers.send_of_exhausted poll operation command world awaited]
          exact still
      | some header =>
          rw [registers.send_of_answered poll operation command world awaited]
          exact (registers.collect_of_inert inert header after).trans still

end

theorem send_tapped (poll : PollConfig) (operation : String) (command : Command)
    (start : Tapped World) :
    registers.tapped.send poll operation command start =
      ((registers.send poll operation command start.world).1,
        start.push (registers.send poll operation command start.world).2
          (registers.accesses poll command start.world)) := by
  have awaited := registers.await_tapped poll.maximumPolls.toNat
    (registers.tapped.submit command start)
  rw [congrArg Tapped.world (registers.submit_tapped command start), Tapped.push_world] at awaited
  cases plain : registers.await poll.maximumPolls.toNat (registers.submit command start.world) with
  | mk found world =>
      rw [plain] at awaited
      cases found with
      | none =>
          rw [registers.send_of_exhausted poll operation command start.world plain,
            registers.accesses_of_exhausted poll command start.world plain,
            registers.tapped.send_of_exhausted poll operation command start awaited]
          simp [submit_tapped]
      | some header =>
          rw [registers.send_of_answered poll operation command start.world plain,
            registers.accesses_of_answered poll command start.world plain,
            registers.tapped.send_of_answered poll operation command start awaited]
          simp [submit_tapped, collect_tapped]

theorem request_tapped (poll : PollConfig) (call : Call) (start : Tapped World) :
    registers.tapped.request poll call start =
      ((registers.request poll call start.world).1,
        start.push (registers.request poll call start.world).2
          (registers.accesses poll call.encode start.world)) := by
  simp [request, send_tapped]

end Registers

end Portal

end Passthrough
