import Passthrough.Proofs.Command.WordLaws

set_option autoImplicit false

/-! The algebra of a command's fields, at every position and of every width. What is written is
read back, cut to the field; all other bits stay, so that fields apart are independent
and may be written in any order. A field that does not exist is refused for reading and
for writing alike. The header's status and token are fields of the same kind. -/

namespace Passthrough.Command

open Command.Field

def Field.AgreeOutside (offset width : Nat) (one other : UInt64) : Prop :=
  ∀ index, ¬ (offset ≤ index ∧ index < offset + width) →
    one.toBitVec.getLsbD index = other.toBitVec.getLsbD index

theorem Field.agreeOutside_write (offset width : Nat) (value word : UInt64)
    (fits : offset + width ≤ 64) :
    AgreeOutside offset width (write offset width value word) word := by
  intro index outside
  by_cases inside : index < 64
  · rw [getLsbD_write _ _ _ _ _ (by omega) inside, if_neg outside]
  · rw [BitVec.getLsbD_of_ge _ _ (by omega), BitVec.getLsbD_of_ge _ _ (by omega)]

/-- The place of a field among the parameters. It may be one that no command has. -/
structure Place where
  index : Nat
  offset : Nat
  width : Nat

namespace Place

structure Inside (place : Place) : Prop where
  index : place.index < parameterCount
  offset : place.offset < 64
  fits : place.offset + place.width ≤ 64

def Apart (place other : Place) : Prop :=
  place.index = other.index →
    place.offset + place.width ≤ other.offset ∨ other.offset + other.width ≤ place.offset

end Place

/-- The field cannot be read, and to write it leaves no other command. -/
def Refuses (command : Command) (place : Place) (reason : FieldError) : Prop :=
  command.field? place.index place.offset place.width = .error reason ∧
    ∀ value, command.setField? place.index place.offset place.width value = .error reason

structure Written (command : Command) (place : Place) (value : UInt64) (after : Command) :
    Prop where
  told : ∃ stored, after.field? place.index place.offset place.width = .ok stored ∧
    stored.toNat = value.toNat % 2 ^ place.width
  word : ∀ index : Fin parameterCount, index.val = place.index →
    AgreeOutside place.offset place.width after.parameters[index] command.parameters[index]
  parameters : ∀ index : Fin parameterCount, index.val ≠ place.index →
    after.parameters[index] = command.parameters[index]
  header : after.header = command.header
  fields : ∀ other : Place, other.Inside → place.Apart other →
    after.field? other.index other.offset other.width =
      command.field? other.index other.offset other.width

/-- A command whose header differs at most inside a field that holds neither its number nor its
priority. -/
structure Relabelled (command : Command) (offset width : Nat) (after : Command) : Prop where
  header : AgreeOutside offset width after.header command.header
  parameters : after.parameters = command.parameters
  number : after.number = command.number
  urgent : after.isUrgent = command.isUrgent

variable {command : Command} {place other : Place} {index : Nat}

theorem locate_eq (inside : place.Inside) :
    locate place.index place.offset place.width = .ok ⟨place.index, inside.index⟩ := by
  unfold locate
  rw [if_pos inside.fits, dif_pos inside.index]

theorem field?_eq (inside : place.Inside) (command : Command) :
    command.field? place.index place.offset place.width =
      .ok (command.field ⟨place.index, inside.index⟩ place.offset place.width) := by
  unfold field?
  rw [locate_eq inside]
  rfl

theorem setField?_eq (inside : place.Inside) (value : UInt64) (command : Command) :
    command.setField? place.index place.offset place.width value =
      .ok (command.setField ⟨place.index, inside.index⟩ place.offset place.width value) := by
  unfold setField?
  rw [locate_eq inside]
  rfl

theorem refuses_of_locate {reason : FieldError}
    (lost : locate place.index place.offset place.width = .error reason) (command : Command) :
    command.Refuses place reason := by
  unfold Refuses field? setField?
  rw [lost]
  exact ⟨rfl, fun _ => rfl⟩

theorem refuses_of_exceeding (exceeds : 64 < place.offset + place.width) (command : Command) :
    command.Refuses place .exceedsWord := by
  apply refuses_of_locate
  unfold locate
  exact if_neg (Nat.not_le_of_lt exceeds)

theorem refuses_of_missing (fits : place.offset + place.width ≤ 64)
    (missing : parameterCount ≤ place.index) (command : Command) :
    command.Refuses place (.noParameter place.index) := by
  apply refuses_of_locate
  unfold locate
  rw [if_pos fits, dif_neg (Nat.not_lt_of_le missing)]

theorem written_setField (inside : place.Inside) (value : UInt64) (command : Command) :
    command.Written place value
      (command.setField ⟨place.index, inside.index⟩ place.offset place.width value) where
  told := by
    refine ⟨_, field?_eq inside _, ?_⟩
    have bounded : place.width ≤ 64 := by
      have fits := inside.fits
      omega
    rw [field_setField _ _ _ _ _ inside.fits, toNat_read _ _ _ bounded, Nat.pow_zero, Nat.div_one]
  word index same := by
    obtain rfl : index = ⟨place.index, inside.index⟩ := Fin.ext same
    simp only [setField, Fin.getElem_fin, Vector.getElem_set_self]
    exact agreeOutside_write _ _ _ _ inside.fits
  parameters index apart := by
    simp only [setField, Fin.getElem_fin]
    exact Vector.getElem_set_ne inside.index index.isLt (Ne.symm apart)
  header := rfl
  fields other otherInside apart := by
    rw [field?_eq otherInside, field?_eq otherInside]
    by_cases same : place.index = other.index
    · have moved : (⟨other.index, otherInside.index⟩ : Fin parameterCount) =
        ⟨place.index, inside.index⟩ := Fin.ext same.symm
      rw [moved, field_setField_of_disjoint _ _ _ _ _ _ _ inside.fits otherInside.fits (apart same)]
    · rw [field_setField_of_ne]
      exact fun equal => same (congrArg Fin.val equal)

theorem setField_comm (inside : place.Inside) (otherInside : other.Inside)
    (apart : place.Apart other) (value otherValue : UInt64) (command : Command) :
    (command.setField ⟨place.index, inside.index⟩ place.offset place.width value).setField
        ⟨other.index, otherInside.index⟩ other.offset other.width otherValue =
      (command.setField ⟨other.index, otherInside.index⟩ other.offset other.width
        otherValue).setField ⟨place.index, inside.index⟩ place.offset place.width value := by
  unfold setField
  congr 1
  simp only [Fin.getElem_fin]
  by_cases same : place.index = other.index
  · have disjoint := apart same
    simp only [same, Vector.getElem_set_self, Vector.set_set]
    rw [write_comm_of_disjoint _ _ _ _ _ _ _ inside.fits otherInside.fits disjoint]
  · rw [Vector.getElem_set_ne inside.index otherInside.index same,
      Vector.getElem_set_ne otherInside.index inside.index (Ne.symm same)]
    exact Vector.set_comm _ _ same

theorem setField_field (inside : place.Inside) (command : Command) :
    command.setField ⟨place.index, inside.index⟩ place.offset place.width
      (command.field ⟨place.index, inside.index⟩ place.offset place.width) = command := by
  unfold setField field
  rw [write_read _ _ _ inside.fits, Fin.getElem_fin, Vector.set_getElem_self]

theorem relabelled_withStatus (status : Status) (command : Command) :
    command.Relabelled 16 8 (command.withStatus status) where
  header := agreeOutside_write _ _ _ _ (by omega)
  parameters := rfl
  number := congrArg UInt64.toUInt16
    (read_write_of_disjoint 16 8 48 16 _ _ (by omega) (by omega) (by omega))
  urgent := congrArg (· != 0)
    (read_write_of_disjoint 16 8 15 1 _ _ (by omega) (by omega) (by omega))

theorem relabelled_withToken (token : Token) (command : Command) :
    command.Relabelled 32 16 (command.withToken token) where
  header := agreeOutside_write _ _ _ _ (by omega)
  parameters := rfl
  number := congrArg UInt64.toUInt16
    (read_write_of_disjoint 32 16 48 16 _ _ (by omega) (by omega) (by omega))
  urgent := congrArg (· != 0)
    (read_write_of_disjoint 32 16 15 1 _ _ (by omega) (by omega) (by omega))

theorem withToken_withStatus (status : Status) (token : Token) (command : Command) :
    (command.withStatus status).withToken token = (command.withToken token).withStatus status := by
  unfold withStatus withToken
  congr 1
  exact write_comm_of_disjoint _ _ _ _ _ _ _ (by omega) (by omega) (by omega)

/-- The laws of reading and writing a command's fields, and those of setting its status and its
token. -/
theorem fields_are_independent (command : Command) :
    (∀ (place : Place) (value : UInt64), place.Inside →
      ∃ after, command.setField? place.index place.offset place.width value = .ok after ∧
        command.Written place value after) ∧
    (∀ (place other : Place) (value otherValue : UInt64), place.Inside → other.Inside →
      place.Apart other →
        (command.setField? place.index place.offset place.width value >>=
            setField? other.index other.offset other.width otherValue) =
          (command.setField? other.index other.offset other.width otherValue >>=
            setField? place.index place.offset place.width value)) ∧
    (∀ place : Place, place.Inside →
      (command.field? place.index place.offset place.width >>= fun own =>
        command.setField? place.index place.offset place.width own) = .ok command) ∧
    (∀ place : Place, 64 < place.offset + place.width → command.Refuses place .exceedsWord) ∧
    (∀ place : Place, place.offset + place.width ≤ 64 → parameterCount ≤ place.index →
      command.Refuses place (.noParameter place.index)) ∧
    (∀ status : Status, command.Relabelled 16 8 (command.withStatus status) ∧
      (command.withStatus status).status = Status.ofByte status.byte) ∧
    (∀ token : Token, command.Relabelled 32 16 (command.withToken token) ∧
      (command.withToken token).token = token) ∧
    ∀ (status : Status) (token : Token),
      (command.withStatus status).withToken token =
        (command.withToken token).withStatus status := by
  refine ⟨?_, ?_, ?_, ?_, ?_, ?_, ?_, ?_⟩
  · intro place value inside
    exact ⟨_, setField?_eq inside value command, written_setField inside value command⟩
  · intro place other value otherValue inside otherInside apart
    rw [setField?_eq inside, setField?_eq otherInside]
    change setField? _ _ _ _ _ = setField? _ _ _ _ _
    rw [setField?_eq inside, setField?_eq otherInside, setField_comm inside otherInside apart]
  · intro place inside
    rw [field?_eq inside]
    change setField? _ _ _ _ _ = _
    rw [setField?_eq inside, setField_field inside]
  · exact fun place exceeds => refuses_of_exceeding exceeds command
  · exact fun place fits missing => refuses_of_missing fits missing command
  · exact fun status => ⟨relabelled_withStatus status command, status_withStatus status command⟩
  · exact fun token => ⟨relabelled_withToken token command, token_withToken token command⟩
  · exact fun status token => withToken_withStatus status token command

theorem fields_are_independent_in_shared_word :
    let command : Command := (make 0x2801 .high ⟨7⟩).setField 0 0 32 0xdeadbeef
    let low : Place := { index := 0, offset := 0, width := 32 }
    let high : Place := { index := 0, offset := 32, width := 32 }
    low.Inside ∧ high.Inside ∧ high.Apart low ∧
      ∃ after, command.setField? 0 32 32 0x100000200 = .ok after ∧
        command.Written high 0x100000200 after ∧ after.field? 0 0 32 = .ok 0xdeadbeef := by
  intro command low high
  have lowInside : low.Inside := ⟨by decide, by decide, by decide⟩
  have highInside : high.Inside := ⟨by decide, by decide, by decide⟩
  have apart : high.Apart low := fun _ => Or.inr (Nat.le_refl 32)
  obtain ⟨after, done, written⟩ :=
    (fields_are_independent command).1 high 0x100000200 highInside
  have kept : after.field? 0 0 32 = command.field? 0 0 32 := written.fields low lowInside apart
  have before : command.field? 0 0 32 = .ok 0xdeadbeef := by
    refine (field?_eq lowInside command).trans (congrArg Except.ok ?_)
    exact (field_setField 0 0 32 0xdeadbeef _ (by decide)).trans (by decide)
  exact ⟨lowInside, highInside, apart, after, done, written, kept.trans before⟩

end Passthrough.Command
