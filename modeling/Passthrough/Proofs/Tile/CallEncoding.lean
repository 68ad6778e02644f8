import Passthrough.Proofs.Command.FieldAlgebra
import Passthrough.Proofs.Tile.CallCodec

set_option autoImplicit false

/-! What a call's command says of the call. Values that are packed into fields apart, one after
the other, can all be read back, and the header is not touched by them. The commands of
calls are packed in this way, so that no two calls share a command. -/

namespace Passthrough

namespace Command

abbrev Argument := Place × UInt64

def pack (command : Command) : List Argument → Except FieldError Command
  | [] => .ok command
  | (place, value) :: rest => do
      let written ← command.setField? place.index place.offset place.width value
      written.pack rest

structure Argument.Fits (argument : Argument) : Prop where
  inside : argument.1.Inside
  whole : argument.2.toNat < 2 ^ argument.1.width

def Holds (command : Command) (argument : Argument) : Prop :=
  command.field? argument.1.index argument.1.offset argument.1.width = .ok argument.2

/-- The arguments fit, and no two of them share a bit. -/
structure Packable (arguments : List Argument) : Prop where
  fits : ∀ argument ∈ arguments, Argument.Fits argument
  apart : arguments.Pairwise fun first second => first.1.Apart second.1

variable {command after : Command} {place : Place} {value : UInt64} {arguments : List Argument}

theorem Place.Apart.symm {other : Place} (apart : place.Apart other) : other.Apart place :=
  fun same => (apart same.symm).symm

theorem Written.holds (written : command.Written place value after)
    (whole : value.toNat < 2 ^ place.width) : after.Holds (place, value) := by
  obtain ⟨stored, told, same⟩ := written.told
  rw [Nat.mod_eq_of_lt whole] at same
  exact told.trans (congrArg Except.ok (UInt64.toNat_inj.mp same))

/-- What is packed is read back, and what is apart from it stays: other fields and the header. -/
theorem Packable.pack (packable : Packable arguments) (command : Command) :
    ∃ after, command.pack arguments = .ok after ∧ after.header = command.header ∧
      (∀ argument ∈ arguments, after.Holds argument) ∧
      ∀ argument : Argument, argument.1.Inside →
        (∀ packed ∈ arguments, packed.1.Apart argument.1) → command.Holds argument →
          after.Holds argument := by
  induction arguments generalizing command with
  | nil => exact ⟨command, rfl, rfl, nofun, fun _ _ _ held => held⟩
  | cons first rest ih =>
      obtain ⟨place, value⟩ := first
      have fits := packable.fits (place, value) List.mem_cons_self
      obtain ⟨apart, later⟩ := List.pairwise_cons.mp packable.apart
      have remaining : Packable rest :=
        ⟨fun argument member => packable.fits argument (List.mem_cons_of_mem _ member), later⟩
      have written := written_setField fits.inside value command
      obtain ⟨after, done, header, held, kept⟩ := ih remaining
        (command.setField ⟨place.index, fits.inside.index⟩ place.offset place.width value)
      refine ⟨after, ?_, header.trans written.header, ?_, ?_⟩
      · unfold Command.pack
        rw [setField?_eq fits.inside]
        exact done
      · intro argument member
        rcases List.mem_cons.mp member with rfl | other
        · -- The arguments that follow lie apart from the first one.
          refine kept (place, value) fits.inside ?_ (written.holds fits.whole)
          exact fun packed among => (apart packed among).symm
        · exact held argument other
      · intro argument inside separate before
        have untouched := written.fields argument.1 inside (separate _ List.mem_cons_self)
        refine kept argument inside ?_ (untouched.trans before)
        exact fun packed among => separate packed (List.mem_cons_of_mem _ among)

end Command

namespace Call

open Command (Argument Packable)

/-- The arguments of a call, each with the place where its command has it. -/
def arguments : Call → List Argument
  | .openSession hardwareId => [(⟨0, 0, 32⟩, hardwareId.toUInt64)]
  | .load _ config =>
      [(⟨0, 32, 32⟩, config.size.toUInt64), (⟨1, 0, 64⟩, config.address),
        (⟨2, 0, 64⟩, config.options)]
  | .run _ config =>
      [(⟨0, 0, 32⟩, config.cores.toUInt64), (⟨0, 32, 32⟩, config.argumentSize.toUInt64),
        (⟨1, 0, 64⟩, config.options), (⟨2, 0, 64⟩, config.argumentAddress)]
  | .setTimeOfDay _ time => [(⟨0, 0, 64⟩, time)]
  | .closeSession _ => []
  | .reset _ => []
  | .attributes _ => []
  | .serviceLayerVersion _ => []
  | .state _ => []
  | .timeOfDay _ => []

def heading (call : Call) : Command :=
  Command.make (versioned call.number) .low call.token

/-- What a command says of the call that it was made from. -/
structure Told (call : Call) (command : Command) : Prop where
  status : command.status = .ready
  priority : command.isUrgent = false
  number : command.number = versioned call.number
  /-- All bits of the unversioned number are there. -/
  whole : command.number.toNat = 16 * call.number.toNat + interfaceVersion.toNat
  token : command.token = call.token
  arguments : ∀ argument ∈ call.arguments, command.Holds argument
  /-- There is nothing else in it. -/
  packed : call.heading.pack call.arguments = .ok command

private theorem fits_word (index : Fin Command.parameterCount) (value : UInt64) :
    Argument.Fits (⟨index, 0, 64⟩, value) where
  inside := ⟨index.isLt, Nat.zero_lt_succ 63, Nat.le_refl 64⟩
  whole := value.toNat_lt

private theorem fits_half (index : Fin Command.parameterCount) {offset : Nat}
    (lower : offset ≤ 32) (value : UInt32) :
    Argument.Fits (⟨index, offset, 32⟩, value.toUInt64) where
  inside := ⟨index.isLt, Nat.lt_of_le_of_lt lower (by decide), Nat.add_le_add_right lower 32⟩
  whole := by
    rw [UInt32.toNat_toUInt64]
    exact value.toNat_lt

theorem packable_arguments (call : Call) : Packable call.arguments where
  fits := by
    cases call with
    | openSession hardwareId =>
        exact List.forall_mem_singleton.mpr (fits_half 0 (by decide) hardwareId)
    | load token config =>
        simp only [arguments, List.forall_mem_cons]
        exact ⟨fits_half 0 (by decide) config.size, fits_word 1 config.address,
          fits_word 2 config.options, nofun⟩
    | run token config =>
        simp only [arguments, List.forall_mem_cons]
        exact ⟨fits_half 0 (by decide) config.cores, fits_half 0 (by decide) config.argumentSize,
          fits_word 1 config.options, fits_word 2 config.argumentAddress, nofun⟩
    | setTimeOfDay token time => exact List.forall_mem_singleton.mpr (fits_word 0 time)
    | closeSession | reset | attributes | serviceLayerVersion | state | timeOfDay => exact nofun
  apart := by cases call <;> simp [arguments, Command.Place.Apart]

theorem pack_heading (call : Call) : call.heading.pack call.arguments = .ok call.encode := by
  cases call <;> rfl

/-- The revision is put below a number of twelve bits, and no bit of the number is lost. -/
theorem toNat_versioned {number : UInt16} (short : number.toNat < 2 ^ 12) :
    (versioned number).toNat = 16 * number.toNat + interfaceVersion.toNat := by
  have bounded : number.toNat <<< 4 < 2 ^ 16 := by
    rw [Nat.shiftLeft_eq]
    omega
  have shifted : (number <<< 4).toNat = number.toNat <<< 4 :=
    (UInt16.toNat_shiftLeft number 4).trans (Nat.mod_eq_of_lt bounded)
  have below : interfaceVersion.toNat < 2 ^ 4 := by decide
  rw [versioned, UInt16.toNat_or, shifted, ← Nat.shiftLeft_add_eq_or_of_lt below, Nat.shiftLeft_eq]
  omega

theorem number_lt (call : Call) : call.number.toNat < 2 ^ 12 := by
  cases call <;> dsimp only [number] <;> decide

theorem told_encode (call : Call) : call.Told call.encode := by
  obtain ⟨command, done, header, held, -⟩ := call.packable_arguments.pack call.heading
  rw [pack_heading] at done
  cases done
  have status : call.encode.status = call.heading.status := congrArg Command.headerStatus header
  have urgent : call.encode.isUrgent = call.heading.isUrgent :=
    congrArg (fun word => Command.Field.read 15 1 word != 0) header
  exact {
    status := status.trans (Command.status_make _ _ _)
    priority := urgent.trans (Command.isUrgent_make _ _ _)
    number := call.number_encode
    whole := (congrArg UInt16.toNat call.number_encode).trans (toNat_versioned call.number_lt)
    token := call.token_encode
    arguments := held
    packed := call.pack_heading }

theorem encode_injective {call other : Call} (same : call.encode = other.encode) :
    call = other := by
  have read := ofCommand?_encode call
  rw [same, ofCommand?_encode other] at read
  exact (Option.some.inj read).symm

/-- Calls that differ in anything have different commands, and a command tells all of its call. -/
theorem commands_tell_calls_apart :
    (∀ call other : Call, call.encode = other.encode ↔ call = other) ∧
    (∀ call : Call, call.Told call.encode) ∧
    ∀ hardwareId : UInt32, (openSession hardwareId).encode.token = ⟨0⟩ := by
  refine ⟨fun call other => ⟨encode_injective, congrArg encode⟩, told_encode, ?_⟩
  exact fun hardwareId => token_encode (.openSession hardwareId)

end Call

end Passthrough
