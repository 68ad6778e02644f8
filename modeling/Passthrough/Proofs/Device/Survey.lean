import Passthrough.Device.Binding
import Passthrough.Proofs.Journal.Basic

set_option autoImplicit false

/-! What binding the objects of a group may come to, by what a platform answers about them: the
first check that fails ends it, and tells how far the calls went. The first name of each role
decides, so that the other names do not count, and no two verdicts are possible. -/

namespace Passthrough

/-- What a platform answers about the objects of a group: their names, and what becomes of opening
and of querying each of them. -/
structure Survey where
  names : List String
  opening : String → Result DeviceFd
  querying : String → Result DeviceMetadata

namespace Survey

def first? (survey : Survey) (role : DeviceRole) : Option String :=
  survey.names.find? (ObjectName.hasClass role.objectClass)

structure Names (survey : Survey) (role : DeviceRole) (name : String) (number : UInt32) : Prop where
  first : survey.first? role = some name
  numbered : ObjectName.number? name = some number

/-- Surveys that differ at most in names that do not come first. -/
structure Agrees (survey others : Survey) : Prop where
  first : ∀ role, others.first? role = survey.first? role
  opening : ∀ name, survey.first? .accelerator = some name →
    others.opening name = survey.opening name
  querying : ∀ name, survey.first? .accelerator = some name →
    others.querying name = survey.querying name

/-- What looking for the object of a role comes to, by the first name of the role. -/
inductive Choice (role : DeviceRole) (group : GroupId) :
    Option String → Result DeviceRecord → Prop where
  | missing : Choice role group none (.error (.deviceMissing role.objectClass group))
  | unnumbered {name : String} (unparsable : ObjectName.number? name = none) :
      Choice role group (some name) (.error (.invalidDeviceName name))
  | chosen {name : String} {number : UInt32} (parsed : ObjectName.number? name = some number) :
      Choice role group (some name) (.ok (.unopened name number))

def listing : Entry :=
  { operation := .groupDevices, subject := none, failure := none }

/-- What binding comes to, with the calls that were made: the first check that fails ends it. -/
inductive Verdict (survey : Survey) (descriptor : GroupFd) (group : GroupId) :
    Result DeviceSet → List Entry → Prop where
  | companionFails {failure : DriverError}
      (companion : Choice .companion group (survey.first? .companion) (.error failure)) :
      Verdict survey descriptor group (.error failure) [listing]
  | acceleratorFails {own : DeviceRecord} {failure : DriverError}
      (companion : Choice .companion group (survey.first? .companion) (.ok own))
      (accelerator : Choice .accelerator group (survey.first? .accelerator) (.error failure)) :
      Verdict survey descriptor group (.error failure) [listing]
  | openingFails {own other : DeviceRecord} {failure : DriverError}
      (companion : Choice .companion group (survey.first? .companion) (.ok own))
      (accelerator : Choice .accelerator group (survey.first? .accelerator) (.ok other))
      (refused : survey.opening other.name = .error failure) :
      Verdict survey descriptor group (.error failure)
        [listing, ⟨.deviceFd, some descriptor.number, some failure⟩]
  | queryingFails {own other : DeviceRecord} {device : DeviceFd} {failure : DriverError}
      {closing : Option DriverError}
      (companion : Choice .companion group (survey.first? .companion) (.ok own))
      (accelerator : Choice .accelerator group (survey.first? .accelerator) (.ok other))
      (opened : survey.opening other.name = .ok device)
      (refused : survey.querying other.name = .error failure) :
      Verdict survey descriptor group (.error failure)
        [listing, ⟨.deviceFd, some descriptor.number, none⟩,
          ⟨.deviceInfo, some device.number, some failure⟩,
          ⟨.closeKind .device, some device.number, closing⟩]
  | binds {own other : DeviceRecord} {device : DeviceFd} {metadata : DeviceMetadata}
      (companion : Choice .companion group (survey.first? .companion) (.ok own))
      (accelerator : Choice .accelerator group (survey.first? .accelerator) (.ok other))
      (opened : survey.opening other.name = .ok device)
      (answered : survey.querying other.name = .ok metadata) :
      Verdict survey descriptor group
        (.ok {
          companion := own
          accelerator := { other with descriptor := some device, metadata := some metadata } })
        [listing, ⟨.deviceFd, some descriptor.number, none⟩,
          ⟨.deviceInfo, some device.number, none⟩]

variable {survey others : Survey} {role : DeviceRole} {group : GroupId} {descriptor : GroupFd}

theorem Choice.unique {found : Option String} {result other : Result DeviceRecord}
    (one : Choice role group found result) (two : Choice role group found other) :
    result = other := by
  cases one with
  | missing =>
      cases two
      rfl
  | unnumbered unparsable =>
      cases two with
      | unnumbered => rfl
      | chosen parsed =>
          rw [unparsable] at parsed
          cases parsed
  | chosen parsed =>
      cases two with
      | unnumbered unparsable =>
          rw [unparsable] at parsed
          cases parsed
      | chosen again =>
          rw [parsed] at again
          cases again
          rfl

theorem Choice.of_names {name : String} {number : UInt32} (names : survey.Names role name number) :
    Choice role group (survey.first? role) (.ok (.unopened name number)) := by
  rw [names.first]
  exact .chosen names.numbered

theorem Choice.names {record : DeviceRecord}
    (choice : Choice role group (survey.first? role) (.ok record)) :
    survey.Names role record.name record.hardwareId ∧
      record = .unopened record.name record.hardwareId := by
  generalize found : survey.first? role = first at choice
  cases choice with
  | chosen parsed => exact ⟨⟨found, parsed⟩, rfl⟩

theorem Agrees.choice {result : Result DeviceRecord} (agrees : survey.Agrees others)
    (choice : Choice role group (others.first? role) result) :
    Choice role group (survey.first? role) result := by
  rwa [agrees.first] at choice

theorem Agrees.verdict {result : Result DeviceSet} {calls : List Entry}
    (agrees : survey.Agrees others) (verdict : others.Verdict descriptor group result calls) :
    survey.Verdict descriptor group result calls := by
  cases verdict with
  | companionFails companion => exact .companionFails (agrees.choice companion)
  | acceleratorFails companion accelerator =>
      exact .acceleratorFails (agrees.choice companion) (agrees.choice accelerator)
  | openingFails companion accelerator refused =>
      have accelerator := agrees.choice accelerator
      rw [agrees.opening _ accelerator.names.1.first] at refused
      exact .openingFails (agrees.choice companion) accelerator refused
  | queryingFails companion accelerator opened refused =>
      have accelerator := agrees.choice accelerator
      rw [agrees.opening _ accelerator.names.1.first] at opened
      rw [agrees.querying _ accelerator.names.1.first] at refused
      exact .queryingFails (agrees.choice companion) accelerator opened refused
  | binds companion accelerator opened answered =>
      have accelerator := agrees.choice accelerator
      rw [agrees.opening _ accelerator.names.1.first] at opened
      rw [agrees.querying _ accelerator.names.1.first] at answered
      exact .binds (agrees.choice companion) accelerator opened answered

/-- Every check has one answer, so that two verdicts stop at the same one. -/
theorem Verdict.unique {one two : Result DeviceSet} {calls later : List Entry}
    (first : survey.Verdict descriptor group one calls)
    (second : survey.Verdict descriptor group two later) : one = two := by
  cases first <;> cases second <;> grind [Choice.unique]

theorem Verdict.isOk_iff {result : Result DeviceSet} {calls : List Entry}
    (verdict : survey.Verdict descriptor group result calls) :
    (∃ devices, result = .ok devices) ↔
      ∃ own id name number device metadata, survey.Names .companion own id ∧
        survey.Names .accelerator name number ∧ survey.opening name = .ok device ∧
        survey.querying name = .ok metadata := by
  constructor
  · rintro ⟨devices, rfl⟩
    cases verdict with
    | binds companion accelerator opened answered =>
        exact ⟨_, _, _, _, _, _, companion.names.1, accelerator.names.1, opened, answered⟩
  · rintro ⟨own, id, name, number, device, metadata, companion, accelerator, opened, answered⟩
    have bound : survey.Verdict descriptor group _ _ :=
      .binds (.of_names companion) (.of_names accelerator) opened answered
    exact ⟨_, verdict.unique bound⟩

structure Bound (survey : Survey) (devices : DeviceSet) : Prop where
  companion : survey.Names .companion devices.companion.name devices.companion.hardwareId
  accelerator : survey.Names .accelerator devices.accelerator.name devices.accelerator.hardwareId
  unopened : devices.companion.descriptor = none ∧ devices.companion.metadata = none
  opened : ∃ device, survey.opening devices.accelerator.name = .ok device ∧
    devices.accelerator.descriptor = some device
  answered : ∃ metadata, survey.querying devices.accelerator.name = .ok metadata ∧
    devices.accelerator.metadata = some metadata
  tokenless : devices.companion.token = none ∧ devices.accelerator.token = none

theorem Verdict.bound {devices : DeviceSet} {calls : List Entry}
    (verdict : survey.Verdict descriptor group (.ok devices) calls) : survey.Bound devices := by
  cases verdict with
  | binds companion accelerator opened answered =>
      obtain ⟨own, unopened⟩ := companion.names
      obtain ⟨other, fresh⟩ := accelerator.names
      rw [unopened, fresh]
      exact ⟨own, other, ⟨rfl, rfl⟩, ⟨_, opened, rfl⟩, ⟨_, answered, rfl⟩, ⟨rfl, rfl⟩⟩

end Survey

end Passthrough
