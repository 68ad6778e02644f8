import Passthrough.Proofs.Command.FieldLaws

set_option autoImplicit false

/-! What each part of a command says after a part was set. The header's number,
token and status stand in fields apart, and the parameters are words of their own. -/

namespace Passthrough.Command

open Command.Field

@[simp] theorem number_make (number : UInt16) (priority : Priority) (token : Token) :
    (make number priority token).number = number := by
  unfold make Command.number
  rw [read_write_of_disjoint 15 1 48 16 _ _ (by omega) (by omega) (by omega),
    read_write_of_disjoint 16 8 48 16 _ _ (by omega) (by omega) (by omega),
    read_write_of_disjoint 32 16 48 16 _ _ (by omega) (by omega) (by omega),
    read_write _ _ _ _ (by omega), toUInt16_read]

@[simp] theorem token_make (number : UInt16) (priority : Priority) (token : Token) :
    (make number priority token).token = token := by
  unfold make Command.token
  rw [read_write_of_disjoint 15 1 32 16 _ _ (by omega) (by omega) (by omega),
    read_write_of_disjoint 16 8 32 16 _ _ (by omega) (by omega) (by omega),
    read_write _ _ _ _ (by omega), toUInt16_read]

@[simp] theorem status_make (number : UInt16) (priority : Priority) (token : Token) :
    (make number priority token).status = .ready := by
  unfold make Command.status headerStatus
  rw [read_write_of_disjoint 15 1 16 8 _ _ (by omega) (by omega) (by omega),
    read_write _ _ _ _ (by omega), toUInt8_read]
  rfl

@[simp] theorem isUrgent_make (number : UInt16) (priority : Priority) (token : Token) :
    (make number priority token).isUrgent = decide (priority = .high) := by
  unfold make isUrgent
  rw [read_write _ _ _ _ (by omega)]
  cases priority <;> decide

@[simp] theorem token_withToken (token : Token) (command : Command) :
    (command.withToken token).token = token := by
  unfold withToken Command.token
  rw [read_write _ _ _ _ (by omega), toUInt16_read]

@[simp] theorem token_withStatus (status : Status) (command : Command) :
    (command.withStatus status).token = command.token := by
  unfold withStatus Command.token
  rw [read_write_of_disjoint _ _ _ _ _ _ (by omega) (by omega) (by omega)]

@[simp] theorem status_withStatus (status : Status) (command : Command) :
    (command.withStatus status).status = Status.ofByte status.byte := by
  unfold withStatus Command.status headerStatus
  rw [read_write _ _ _ _ (by omega), toUInt8_read]

@[simp] theorem field_withStatus (status : Status) (command : Command)
    (index : Fin parameterCount) (offset width : Nat) :
    (command.withStatus status).field index offset width = command.field index offset width := by
  rw [withStatus, field, field]

@[simp] theorem number_setField (index : Fin parameterCount) (offset width : Nat)
    (value : UInt64) (command : Command) :
    (setField index offset width value command).number = command.number := by
  rw [setField, Command.number, Command.number]

@[simp] theorem token_setField (index : Fin parameterCount) (offset width : Nat)
    (value : UInt64) (command : Command) :
    (setField index offset width value command).token = command.token := by
  rw [setField, Command.token, Command.token]

theorem field_setField (index : Fin parameterCount) (offset width : Nat) (value : UInt64)
    (command : Command) (fits : offset + width ≤ 64) :
    (setField index offset width value command).field index offset width =
      read 0 width value := by
  simp only [field, setField, Fin.getElem_fin, Vector.getElem_set_self]
  exact read_write offset width value _ fits

theorem field_setField_of_disjoint (index : Fin parameterCount)
    (offset width other otherWidth : Nat) (value : UInt64) (command : Command)
    (fits : offset + width ≤ 64) (otherFits : other + otherWidth ≤ 64)
    (apart : offset + width ≤ other ∨ other + otherWidth ≤ offset) :
    (setField index offset width value command).field index other otherWidth =
      command.field index other otherWidth := by
  simp only [field, setField, Fin.getElem_fin, Vector.getElem_set_self]
  exact read_write_of_disjoint offset width other otherWidth value _ fits otherFits apart

theorem field_setField_of_ne (index other : Fin parameterCount) (offset width : Nat)
    (otherOffset otherWidth : Nat) (value : UInt64) (command : Command)
    (different : index ≠ other) :
    (setField index offset width value command).field other otherOffset otherWidth =
      command.field other otherOffset otherWidth := by
  have apart : index.val ≠ other.val := fun same => different (Fin.ext same)
  simp only [field, setField, Fin.getElem_fin]
  rw [Vector.getElem_set_ne index.isLt other.isLt apart]

end Passthrough.Command
