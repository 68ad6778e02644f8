import Passthrough.Proofs.Simulator.Stimuli

set_option autoImplicit false

/-! What a stimulus answers, beside what it did. A refusal leaves alone whatever is held.
A descriptor that is answered is the next one, and an address is the next one too; both
counts only grow. What is recorded of openings and closings agrees with the descriptors. -/

namespace Passthrough

def Event.opens : Event → Bool
  | .openGroup _ => true
  | .openContainer => true
  | .openDevice _ => true
  | .openFile _ => true
  | _ => false

def Event.closes : Event → Bool
  | .close _ => true
  | _ => false

namespace Simulator

def openings (sim : Simulator) : Nat :=
  sim.events.countP Event.opens

def closings (sim : Simulator) : Nat :=
  sim.events.countP Event.closes

/-- What a user of the machine can hold, the firmware's sessions apart. -/
structure SameHoldings (before after : Simulator) : Prop where
  descriptors : after.descriptors = before.descriptors
  attachments : after.attachments = before.attachments
  mappings : after.mappings = before.mappings
  registrations : after.registrations = before.registrations

structure SameCounts (before after : Simulator) : Prop where
  lastDescriptor : after.lastDescriptor = before.lastDescriptor
  nextAddress : after.nextAddress = before.nextAddress
  openings : after.openings = before.openings
  closings : after.closings = before.closings

def issued? : Result Answer → Option Int
  | .ok (.descriptor number) => some number
  | _ => none

def placed? : Result Answer → Option HostAddress
  | .ok (.address address) => some address
  | _ => none

/-- What a stimulus did, as its answer tells. -/
inductive Dealing (sim : Simulator) (stimulus : Stimulus) (after : Simulator) :
    Result Answer → Prop where
  | refuses {failure : DriverError} (holdings : SameHoldings sim after)
      (counts : SameCounts sim after) : Dealing sim stimulus after (.error failure)
  | settles {answer : Answer} (keeps : issued? (.ok answer) = none)
      (stays : placed? (.ok answer) = none)
      (size : after.descriptors.size = sim.descriptors.size) (counts : SameCounts sim after) :
      Dealing sim stimulus after (.ok answer)
  | issues (event : Event) (object : OpenObject)
      (kind : event.opens = true ∧ event.closes = false)
      (recorded : after.events = event :: sim.events)
      (descriptors : after.descriptors = sim.descriptors.insert (sim.lastDescriptor + 1) object)
      (last : after.lastDescriptor = sim.lastDescriptor + 1)
      (address : after.nextAddress = sim.nextAddress) :
      Dealing sim stimulus after (.ok (.descriptor (sim.lastDescriptor + 1)))
  | places (length : Nat) (descriptors : after.descriptors = sim.descriptors)
      (last : after.lastDescriptor = sim.lastDescriptor)
      (address : after.nextAddress = sim.nextAddress + mappedPages length * 4096)
      (openings : after.openings = sim.openings) (closings : after.closings = sim.closings) :
      Dealing sim stimulus after (.ok (.address ⟨sim.nextAddress⟩))
  | closes (number : Int) {object : OpenObject}
      (opened : sim.descriptors[number]? = some object)
      (recorded : after.events = .close object.kind :: sim.events)
      (descriptors : after.descriptors = sim.descriptors.erase number)
      (last : after.lastDescriptor = sim.lastDescriptor)
      (address : after.nextAddress = sim.nextAddress) :
      Dealing sim stimulus after (.ok .done)
  /-- The record is cleared, and with it the tallies. -/
  | forgets (asked : stimulus = .forgetEvents) (descriptors : after.descriptors = sim.descriptors)
      (last : after.lastDescriptor = sim.lastDescriptor)
      (address : after.nextAddress = sim.nextAddress) :
      Dealing sim stimulus after (.ok .done)

variable {sim after : Simulator}

theorem SameHoldings.refl (sim : Simulator) : SameHoldings sim sim := ⟨rfl, rfl, rfl, rfl⟩

theorem SameCounts.refl (sim : Simulator) : SameCounts sim sim := ⟨rfl, rfl, rfl, rfl⟩

private theorem dealing_of_question {α : Type} (stimulus : Stimulus) (form : α → Answer)
    (question : Result α) (keeps : ∀ value, issued? (.ok (form value)) = none)
    (stays : ∀ value, placed? (.ok (form value)) = none) :
    Dealing sim stimulus sim (answering form (question, sim)).1 := by
  cases question with
  | ok value => exact .settles (keeps value) (stays value) rfl (.refl sim)
  | error failure => exact .refuses (.refl sim) (.refl sim)

private theorem size_insert_of_known {number : Int} {old : OpenObject}
    (known : sim.descriptors[number]? = some old) (object : OpenObject) :
    (sim.descriptors.insert number object).size = sim.descriptors.size := by
  have present : sim.descriptors.contains number = true := by
    rw [Std.ExtTreeMap.contains_eq_isSome_getElem?, known]
    rfl
  rw [Std.ExtTreeMap.size_insert, if_pos present]

theorem execute_counts (sim : Simulator) (command : Command) :
    SameHoldings sim (sim.execute command).2 ∧ SameCounts sim (sim.execute command).2 := by
  have same := (sim.execute_change command).same
  have tally (counts : Event → Bool) (quiet : ∀ call, counts (.firmware call) = false) :
      (sim.execute command).2.events.countP counts = sim.events.countP counts := by
    unfold execute
    cases Call.ofCommand? command with
    | none => rfl
    | some call =>
        change (sim.serve call).2.events.countP counts = _
        rcases sim.serve_events call with unrecorded | recorded
        · rw [unrecorded]
        · rw [recorded, List.countP_cons, quiet call]
          rfl
  constructor
  · constructor
    all_goals rw [same]
  · constructor
    · rw [same]
    · rw [same]
    · exact tally Event.opens fun _ => rfl
    · exact tally Event.closes fun _ => rfl

theorem react_dealing (sim : Simulator) (stimulus : Stimulus) :
    Dealing sim stimulus (sim.react stimulus).2 (sim.react stimulus).1 := by
  cases stimulus with
  | inject fault =>
      dsimp only [react, Simulator.inject]
      split
      · exact .settles rfl rfl rfl (.refl sim)
      · exact .settles rfl rfl rfl ⟨rfl, rfl, rfl, rfl⟩
  | clearFaults => exact .settles rfl rfl rfl ⟨rfl, rfl, rfl, rfl⟩
  | setViable group viable =>
      dsimp only [react, Simulator.setViable]
      split
      · exact .settles rfl rfl rfl ⟨rfl, rfl, rfl, rfl⟩
      · exact .settles rfl rfl rfl (.refl sim)
  | setApiVersion version => exact .settles rfl rfl rfl ⟨rfl, rfl, rfl, rfl⟩
  | forgetEvents => exact .forgets rfl rfl rfl rfl
  | takeBuffer length => exact .places length rfl rfl rfl rfl rfl
  | containerGroup container => exact dealing_of_question _ _ _ (fun _ => rfl) fun _ => rfl
  | groupDevices group => exact dealing_of_question _ _ _ (fun _ => rfl) fun _ => rfl
  | groupViable group => exact dealing_of_question _ _ _ (fun _ => rfl) fun _ => rfl
  | apiVersion container => exact dealing_of_question _ _ _ (fun _ => rfl) fun _ => rfl
  | hasType1Iommu container => exact dealing_of_question _ _ _ (fun _ => rfl) fun _ => rfl
  | deviceInfo device => exact dealing_of_question _ _ _ (fun _ => rfl) fun _ => rfl
  | openGroup group =>
      dsimp only [react]
      rw [openGroup_eq]
      repeat' split
      all_goals first
        | exact .refuses (.refl sim) (.refl sim)
        | exact .issues (.openGroup group) (.group group) ⟨rfl, rfl⟩ rfl rfl rfl rfl
  | setContainer group container =>
      dsimp only [react]
      rw [setContainer_eq]
      repeat' split
      all_goals first
        | exact .refuses (.refl sim) (.refl sim)
        | exact .settles rfl rfl rfl ⟨rfl, rfl, rfl, rfl⟩
  | unsetContainer group =>
      dsimp only [react]
      rw [unsetContainer_eq]
      split
      · exact .settles rfl rfl rfl ⟨rfl, rfl, rfl, rfl⟩
      · exact .refuses (.refl sim) (.refl sim)
  | openContainer => exact .issues .openContainer (.container false) ⟨rfl, rfl⟩ rfl rfl rfl rfl
  | setIommu container =>
      dsimp only [react]
      rw [setIommu_eq]
      repeat' split
      all_goals try exact .refuses (.refl sim) (.refl sim)
      next opened =>
        refine .settles rfl rfl ?_ ⟨rfl, rfl, rfl, rfl⟩
        exact size_insert_of_known opened (.container true)
  | deviceFd group name =>
      dsimp only [react]
      rw [deviceFd_eq]
      repeat' split
      all_goals first
        | exact .refuses (.refl sim) (.refl sim)
        | exact .issues (.openDevice name) (.device name) ⟨rfl, rfl⟩ rfl rfl rfl rfl
  | mapPortal device =>
      dsimp only [react]
      rw [mapPortal_eq]
      repeat' split
      all_goals first
        | exact .refuses (.refl sim) (.refl sim)
        | exact .places portalLength rfl rfl rfl rfl rfl
  | mapDma container host device length =>
      obtain ⟨buffers, counted⟩ := countRegistration_shape sim device
      dsimp only [react]
      rw [mapDma_eq, counted]
      dsimp only
      repeat' split
      all_goals first
        | exact .refuses ⟨rfl, rfl, rfl, rfl⟩ ⟨rfl, rfl, rfl, rfl⟩
        | exact .settles rfl rfl rfl ⟨rfl, rfl, rfl, rfl⟩
  | unmapDma container device length =>
      dsimp only [react]
      rw [unmapDma_eq]
      split
      · exact .settles rfl rfl rfl ⟨rfl, rfl, rfl, rfl⟩
      · exact .refuses ⟨rfl, rfl, rfl, rfl⟩ ⟨rfl, rfl, rfl, rfl⟩
  | openFile files path =>
      dsimp only [react]
      rw [openFile_eq]
      repeat' split
      all_goals first
        | exact .refuses ⟨rfl, rfl, rfl, rfl⟩ ⟨rfl, rfl, rfl, rfl⟩
        | exact .issues (.openFile path) .file ⟨rfl, rfl⟩ rfl rfl rfl rfl
  | mapFile file length =>
      dsimp only [react]
      rw [mapFile_eq]
      repeat' split
      all_goals first
        | exact .refuses ⟨rfl, rfl, rfl, rfl⟩ ⟨rfl, rfl, rfl, rfl⟩
        | exact .places length rfl rfl rfl rfl rfl
  | mapDevice device offset length =>
      dsimp only [react]
      rw [mapDevice_eq]
      repeat' split
      all_goals first
        | exact .refuses (.refl sim) (.refl sim)
        | exact .places length rfl rfl rfl rfl rfl
  | unmap address length =>
      dsimp only [react]
      rw [unmap_eq]
      split
      · exact .settles rfl rfl rfl ⟨rfl, rfl, rfl, rfl⟩
      · exact .refuses ⟨rfl, rfl, rfl, rfl⟩ ⟨rfl, rfl, rfl, rfl⟩
  | close number =>
      dsimp only [react]
      rw [close_eq]
      split
      · next object opened =>
          refine .closes number opened ?_ ?_ ?_ ?_
          all_goals cases object <;> rfl
      · exact .refuses (.refl sim) (.refl sim)
  | prepare portal index value =>
      dsimp only [react, writePortal]
      rw [if_neg (Portal.parameterOffset_ne_zero index)]
      exact .settles rfl rfl rfl ⟨rfl, rfl, rfl, rfl⟩
  | submit portal header =>
      obtain ⟨holdings, counts⟩ :=
        sim.execute_counts (Portal.storeAt (sim.portalWords portal) 0 header)
      exact .settles rfl rfl (congrArg Std.ExtTreeMap.size holdings.descriptors)
        ⟨counts.lastDescriptor, counts.nextAddress, counts.openings, counts.closings⟩
  | send portal operation command =>
      obtain ⟨portals, sent⟩ := sim.react_send portal operation command
      obtain ⟨holdings, counts⟩ := sim.execute_counts command
      rw [sent]
      cases Portal.verdict operation (sim.execute command).1 with
      | ok response =>
          exact .settles rfl rfl (congrArg Std.ExtTreeMap.size holdings.descriptors)
            ⟨counts.lastDescriptor, counts.nextAddress, counts.openings, counts.closings⟩
      | error failure =>
          exact .refuses
            ⟨holdings.descriptors, holdings.attachments, holdings.mappings,
              holdings.registrations⟩
            ⟨counts.lastDescriptor, counts.nextAddress, counts.openings, counts.closings⟩
  | dropPortal portal => exact .settles rfl rfl rfl ⟨rfl, rfl, rfl, rfl⟩

theorem Dealing.issued {stimulus : Stimulus} {answer : Result Answer}
    (dealing : Dealing sim stimulus after answer) :
    match issued? answer with
    | some number => number = sim.lastDescriptor + 1 ∧ after.lastDescriptor = number
    | none => after.lastDescriptor = sim.lastDescriptor := by
  cases dealing with
  | refuses holdings counts => exact counts.lastDescriptor
  | settles keeps stays size counts =>
      rw [keeps]
      exact counts.lastDescriptor
  | issues event object kind recorded descriptors last address => exact ⟨rfl, last⟩
  | places length descriptors last address openings closings => exact last
  | closes number opened recorded descriptors last address => exact last
  | forgets asked descriptors last address => exact last

theorem Dealing.placed {stimulus : Stimulus} {answer : Result Answer}
    (dealing : Dealing sim stimulus after answer) :
    match placed? answer with
    | some address => address.value = sim.nextAddress ∧ sim.nextAddress < after.nextAddress
    | none => after.nextAddress = sim.nextAddress := by
  cases dealing with
  | refuses holdings counts => exact counts.nextAddress
  | settles keeps stays size counts =>
      rw [stays]
      exact counts.nextAddress
  | issues event object kind recorded descriptors last address => exact address
  | places length descriptors last address openings closings =>
      have taken : 0 < mappedPages length := Nat.succ_pos _
      refine ⟨rfl, ?_⟩
      omega
  | closes number opened recorded descriptors last address => exact address
  | forgets asked descriptors last address => exact address

theorem lastDescriptor_le_react (sim : Simulator) (stimulus : Stimulus) :
    sim.lastDescriptor ≤ (sim.react stimulus).2.lastDescriptor := by
  have dealing := (sim.react_dealing stimulus).issued
  split at dealing <;> omega

end Simulator

end Passthrough
