import Passthrough.Kernel.Platform
import Passthrough.Kernel.Scripted
import Passthrough.Proofs.Action.Yields
import Passthrough.Proofs.Portal.Access

set_option autoImplicit false

/-! The handshake between a host and a portal. A command is written behind its parameters;
then the header is looked at, and nothing else, until it is no longer pending; only
then are the parameters of the response read, each of them once. Nothing is assumed of the
device, so a device that never answers, or that answers at the last look, is among them. -/

namespace Passthrough

theorem Kernel.mapPortal_length {System : Type} (kernel : Kernel System) (device : DeviceFd)
    (system : System) :
    (kernel.mapPortal device).Yields system fun result _ =>
      ∀ window, result = .ok window → 64 ≤ window.length := by
  have tried {α : Type} (action : Act System α) (system : System) :
      action.Yields system fun _ _ => True := fun _ => trivial
  unfold Kernel.mapPortal
  refine Act.Yields.andThen (tried _ _) (fun _ _ _ _ => nofun) fun answer _ _ => ?_
  dsimp only
  split
  · exact Act.Yields.throwThen nofun
  · next large =>
      refine Act.Yields.andThen (tried _ _) (fun _ _ _ _ => nofun) fun address _ _ => ?_
      refine Act.Yields.pure ?_
      rintro _ ⟨⟩
      exact Nat.le_of_not_lt large

namespace Portal

/-- How the registers are used for one command, and what comes of it. -/
inductive Handshake (maximumPolls : UInt32) (operation : String) (command : Command) :
    List Access → Result Command → Prop where
  | abandoned (headers : List UInt64) (exhausted : headers.length = maximumPolls.toNat)
      (pending : ∀ header ∈ headers, statusByte header = 1) :
      Handshake maximumPolls operation command (submission command ++ polls headers)
        (.error (.firmwareTimeout operation maximumPolls))
  | completed (earlier : List UInt64) (response : Command)
      (within : earlier.length < maximumPolls.toNat)
      (pending : ∀ header ∈ earlier, statusByte header = 1)
      (done : statusByte response.header ≠ 1) :
      Handshake maximumPolls operation command
        (submission command ++ polls (earlier ++ [response.header]) ++ collection response)
        (verdict operation response)

variable {World : Type}

theorem Registers.handshake_send (registers : Registers World) (poll : PollConfig)
    (operation : String) (command : Command) (world : World) :
    Handshake poll.maximumPolls operation command (registers.accesses poll command world)
      (registers.send poll operation command world).1 := by
  have seen := registers.looks_cases poll.maximumPolls.toNat (registers.submit command world)
  cases awaited : registers.await poll.maximumPolls.toNat (registers.submit command world) with
  | mk found after =>
      rw [awaited] at seen
      rcases seen with
        ⟨rfl, exhausted, pending⟩ | ⟨earlier, header, rfl, looked, within, pending, done⟩
      · rw [registers.send_of_exhausted poll operation command world awaited,
          registers.accesses_of_exhausted poll command world awaited]
        exact .abandoned _ exhausted pending
      · rw [registers.send_of_answered poll operation command world awaited,
          registers.accesses_of_answered poll command world awaited, looked]
        exact .completed earlier (registers.collect header after).1 within pending done

theorem Handshake.extent {maximumPolls : UInt32} {operation : String} {command : Command}
    {accesses : List Access} {result : Result Command}
    (handshake : Handshake maximumPolls operation command accesses result) :
    ∀ access ∈ accesses, access.offset + 8 ≤ 64 := by
  have parameter (index : Fin Command.parameterCount) : 8 * (index.val + 1) + 8 ≤ 64 := by
    have inside : index.val < 7 := index.isLt
    omega
  have submitted : ∀ access ∈ submission command, access.offset + 8 ≤ 64 := by
    intro access member
    rcases List.mem_append.mp member with written | header
    · obtain ⟨index, -, rfl⟩ := List.mem_map.mp written
      exact parameter index
    · cases List.mem_singleton.mp header
      exact Nat.le_add_left 8 56
  have polled (headers : List UInt64) : ∀ access ∈ polls headers, access.offset + 8 ≤ 64 := by
    intro access member
    obtain ⟨header, -, rfl⟩ := List.mem_map.mp member
    exact Nat.le_add_left 8 56
  have collected (response : Command) :
      ∀ access ∈ collection response, access.offset + 8 ≤ 64 := by
    intro access member
    obtain ⟨index, -, rfl⟩ := List.mem_map.mp member
    exact parameter index
  cases handshake with
  | abandoned headers =>
      exact List.forall_mem_append.mpr ⟨submitted, polled headers⟩
  | completed earlier response =>
      refine List.forall_mem_append.mpr ⟨?_, collected response⟩
      exact List.forall_mem_append.mpr ⟨submitted, polled _⟩

/-- Whatever a device answers at each read, sending is a handshake that ends and stays inside any
window that a portal can be mapped with. How often the thread yields is of no account. -/
theorem Registers.send_handshake (registers : Registers World) (poll : PollConfig)
    (operation : String) (command : Command) (world : World) :
    let ended := registers.tapped.send poll operation command ⟨world, []⟩
    registers.send poll operation command world = (ended.1, ended.2.world) ∧
      Handshake poll.maximumPolls operation command ended.2.accesses ended.1 ∧
      (∀ interval, registers.tapped.send { poll with yieldInterval := interval } operation
        command ⟨world, []⟩ = ended) ∧
      (∀ access ∈ ended.2.accesses, access.offset < 64) ∧
      ∀ (System : Type) (kernel : Kernel System) (device : DeviceFd) (start : Traced System)
        (window : Kernel.PortalWindow),
        ((kernel.mapPortal device).outcome start).1 = .ok window →
          ∀ access ∈ ended.2.accesses, access.offset + 8 ≤ window.length := by
  intro ended
  have tapped : ended = _ := registers.send_tapped poll operation command ⟨world, []⟩
  have handshake := registers.handshake_send poll operation command world
  rw [tapped]
  refine ⟨rfl, handshake, fun _ => tapped, ?_, ?_⟩
  · intro access member
    have inside := handshake.extent access member
    omega
  · intro System kernel device start window mapped access member
    have inside := handshake.extent access member
    have large := kernel.mapPortal_length device start.world start.log window mapped
    omega

def Registers.ofHistory (answer : List Access → Nat → UInt64) : Registers (List Access) :=
  { read := fun offset history =>
      (answer history offset, history ++ [.read offset (answer history offset)])
    write := fun offset value history => history ++ [.write offset value] }

/-- A device that answers at the last look, behind the smallest window there can be. -/
theorem Registers.send_handshake_of_last_poll :
    let registers := Registers.ofHistory fun history offset =>
      if offset = 0 then if history.length < 10 then 0x10000 else 0xa0000
      else UInt64.ofNat history.length
    let poll : PollConfig := { maximumPolls := 3, yieldInterval := 1 }
    let command := Call.encode (.reset ⟨5⟩)
    let ended := registers.tapped.send poll "reset" command ⟨[], []⟩
    let region : Kernel.Script := { result := 0, errno := .inputOutput, puts := [(16, [64])] }
    let start : Traced Kernel.Scripted :=
      ⟨(Kernel.Scripted.openDevice 64 (.ofFiles ⟨[], []⟩)).2.withScript region, []⟩
    ∃ window, ((Kernel.Scripted.kernel.mapPortal ⟨3⟩).outcome start).1 = .ok window ∧
      window.length = 64 ∧ ended.1 = .error (.firmware "reset" .busy) ∧
      Handshake 3 "reset" command ended.2.accesses ended.1 ∧
      ∀ access ∈ ended.2.accesses, access.offset + 8 ≤ window.length := by
  intro registers poll command ended region start
  have mapped : ((Kernel.Scripted.kernel.mapPortal ⟨3⟩).outcome start).1.toOption.map
      Kernel.PortalWindow.length = some 64 := by decide +kernel
  obtain ⟨-, handshake, -, -, fits⟩ := registers.send_handshake poll "reset" command []
  cases outcome : ((Kernel.Scripted.kernel.mapPortal ⟨3⟩).outcome start).1 with
  | error failure =>
      rw [outcome] at mapped
      cases mapped
  | ok window =>
      rw [outcome] at mapped
      refine ⟨window, rfl, Option.some.inj mapped, by decide +kernel, handshake, ?_⟩
      exact fits Kernel.Scripted Kernel.Scripted.kernel ⟨3⟩ start window outcome

end Portal

end Passthrough
