import Passthrough.Proofs.Platform.Fronts
import Passthrough.Proofs.Session.LoadCourse
import Passthrough.Proofs.Simulator.CallFrames
import Passthrough.Proofs.Simulator.Reachable
import Passthrough.Proofs.Table.Comprises

set_option autoImplicit false

/-! What a machine holds for a load, beside what it held before. The descriptors, mappings
and registrations of the ledger are in the machine's tables; that nothing else came
to be there is said of a table unless removing from it can be refused. Each operation
moves the machine and the ledger together. -/

namespace Passthrough

open Files (FileTree)
open Simulator (OpenObject Aside)

namespace Holding

def descriptor? : Holding → Option (Int × OpenObject)
  | .file _ descriptor => some (descriptor.number, .file)
  | _ => none

def mapping? : Holding → Option (Nat × Nat)
  | .mapping _ address length => some (address.value, length)
  | _ => none

def registration? (container : ContainerFd) : Holding → Option ((Int × Nat) × Nat)
  | .buffer address length => some ((container.number, address.value), length)
  | _ => none

end Holding

namespace Ledger

def pageEntry (page : HostAddress) : Nat × Nat :=
  (page.value, Staging.interruptLength)

def descriptors (ledger : Ledger) : List (Int × OpenObject) :=
  ledger.stack.filterMap Holding.descriptor?

def mappings (ledger : Ledger) : List (Nat × Nat) :=
  ledger.stack.filterMap Holding.mapping? ++
    (ledger.page.toList ++ ledger.loose.toList).map pageEntry

def registrations (ledger : Ledger) (container : ContainerFd) : List ((Int × Nat) × Nat) :=
  ledger.stack.filterMap (Holding.registration? container) ++
    ledger.page.toList.map fun _ =>
      ((container.number, Staging.interruptAddress), Staging.interruptLength)

end Ledger

/-- What the open firmware sessions are, by the one that a load opens. -/
def LoadChannel.Shows (channel : LoadChannel) (base sim : Simulator) : Prop :=
  match channel with
  | .unopened => sim.sessions = base.sessions ∧ sim.lastToken = base.lastToken
  | .opened token => token.number = base.nextToken ∧
      sim.sessions = base.sessions.insert base.nextToken ∧ sim.lastToken = base.nextToken
  | .closed => sim.sessions = (base.sessions.insert base.nextToken).erase base.nextToken ∧
      sim.lastToken = base.nextToken

def Account.over {World : Type} (account : Account Simulator) (machine : World → Simulator) :
    Account World :=
  { holds := fun ledger world => account.holds ledger (machine world)
    accepts := account.accepts
    rejects := account.rejects }

theorem Account.Settles.over {World α : Type} {account : Account Simulator}
    {machine : World → Simulator} {step : Fault} {failed : Ledger} {done : α → Ledger}
    {result : Result α} {reached : World}
    (settles : account.Settles step failed done result (machine reached)) :
    (account.over machine).Settles step failed done result reached := by
  cases result with
  | ok value => exact settles
  | error failure => exact settles

theorem Account.Moves.over {World α : Type} {account : Account Simulator}
    {machine : World → Simulator} {failed : Ledger} {done : α → Ledger} {result : Result α}
    {reached : World} (moves : account.Moves failed done result (machine reached)) :
    (account.over machine).Moves failed done result reached := by
  cases result with
  | ok value => exact moves
  | error failure => exact moves

structure Custody (refusable : Operation → Prop) (container : ContainerFd) (base : Simulator)
    (ledger : Ledger) (sim : Simulator) : Prop where
  fresh : sim.Fresh
  descriptors : Comprises (refusable (.closeKind .file)) base.descriptors ledger.descriptors
    sim.descriptors
  mappings : Comprises (refusable .unmap) base.mappings ledger.mappings sim.mappings
  registrations : Comprises (refusable .unmapDma) base.registrations
    (ledger.registrations container) sim.registrations
  attachments : sim.attachments = base.attachments
  faults : sim.faults = base.faults
  attributes : sim.tile.attributes = base.tile.attributes
  channel : ledger.channel.Shows base sim

/-- What becomes of an operation that may fail, and of the books with it. -/
def Custody.Comes {α : Type} (refusable : Operation → Prop) (container : ContainerFd)
    (base : Simulator) (failed : Ledger) (done : α → Ledger) : Result α × Simulator → Prop
  | (.ok value, after) => Custody refusable container base (done value) after
  | (.error _, after) => Custody refusable container base failed after

namespace Custody

variable {refusable : Operation → Prop} {container : ContainerFd} {base sim : Simulator}
  {ledger : Ledger}

theorem start (fresh : sim.Fresh) (opened mapped registered : Nat) (tile : TileState) :
    Custody refusable container sim (Ledger.start opened mapped registered tile) sim where
  fresh := fresh
  descriptors := Comprises.refl _ _
  mappings := Comprises.refl _ _
  registrations := Comprises.refl _ _
  attachments := rfl
  faults := rfl
  attributes := rfl
  channel := ⟨rfl, rfl⟩

theorem aside {after : Simulator} {moved : Ledger}
    (custody : Custody refusable container base ledger sim)
    (aside : Aside sim after) (fresh : after.Fresh) (channel : moved.channel = ledger.channel)
    (descriptors : Comprises (refusable (.closeKind .file)) base.descriptors moved.descriptors
      after.descriptors)
    (mappings : Comprises (refusable .unmap) base.mappings moved.mappings after.mappings)
    (registrations : Comprises (refusable .unmapDma) base.registrations
      (moved.registrations container) after.registrations) :
    Custody refusable container base moved after where
  fresh := fresh
  descriptors := descriptors
  mappings := mappings
  registrations := registrations
  attachments := (congrArg Simulator.attachments aside.same).trans custody.attachments
  faults := (congrArg Simulator.faults aside.same).trans custody.faults
  attributes :=
    (congrArg (fun sim : Simulator => sim.tile.attributes) aside.same).trans custody.attributes
  channel := by
    rw [channel, aside.same]
    exact custody.channel

/-! ### Files and their mappings -/

theorem openFile (custody : Custody refusable container base ledger sim) (files : FileTree)
    (path : String) :
    Comes refusable container base ledger.countOpen
      (fun descriptor => ledger.countOpen.push (.file path descriptor))
      (Simulator.openFile files sim path) := by
  have fresh := custody.fresh.step (.openFile files path)
  have frame := Aside.openFile sim files path
  rw [Simulator.openFile_eq] at fresh frame ⊢
  by_cases fault : sim.has (.openFile (sim.filesOpened + 1))
  · rw [if_pos fault] at fresh frame ⊢
    exact custody.aside frame fresh rfl custody.descriptors custody.mappings custody.registrations
  · rw [if_neg fault] at fresh frame ⊢
    by_cases regular : Simulator.isRegular files path
    · rw [if_pos regular] at fresh frame ⊢
      have vacant := custody.fresh.descriptors (sim.lastDescriptor + 1) (Int.lt_succ _)
      exact custody.aside frame fresh rfl (custody.descriptors.insert _ vacant) custody.mappings
        custody.registrations
    · rw [if_neg regular] at fresh frame ⊢
      exact custody.aside frame fresh rfl custody.descriptors custody.mappings
        custody.registrations

theorem mapFile (custody : Custody refusable container base ledger sim) (descriptor : FileFd)
    (length : Nat) :
    Comes refusable container base ledger.countMap
      (fun address => ledger.countMap.push (.mapping descriptor address length))
      (sim.mapFile descriptor length) := by
  have fresh := custody.fresh.step (.mapFile descriptor length)
  have frame := Aside.mapFile sim descriptor length
  rw [Simulator.mapFile_eq] at fresh frame ⊢
  by_cases fault : sim.has (.mapFile (sim.filesMapped + 1))
  · rw [if_pos fault] at fresh frame ⊢
    exact custody.aside frame fresh rfl custody.descriptors custody.mappings custody.registrations
  · rw [if_neg fault] at fresh frame ⊢
    have vacant := custody.fresh.mappings sim.nextAddress (Nat.le_refl _)
    cases found : sim.descriptors[descriptor.number]? with
    | none =>
        simp only [found] at fresh frame ⊢
        exact custody.aside frame fresh rfl custody.descriptors custody.mappings
          custody.registrations
    | some object =>
        cases object with
        | file =>
            simp only [found] at fresh frame ⊢
            exact custody.aside frame fresh rfl custody.descriptors
              (custody.mappings.insert length vacant) custody.registrations
        | _ =>
            simp only [found] at fresh frame ⊢
            exact custody.aside frame fresh rfl custody.descriptors custody.mappings
              custody.registrations

theorem descriptor_open (custody : Custody refusable container base ledger sim) {path : String}
    {descriptor : FileFd} (known : .file path descriptor ∈ ledger.stack) :
    sim.descriptors[descriptor.number]? = some .file :=
  custody.descriptors.has (descriptor.number, .file)
    (List.mem_filterMap.mpr ⟨_, known, rfl⟩)

theorem mapping_live (custody : Custody refusable container base ledger sim) {descriptor : FileFd}
    {address : HostAddress} {length : Nat}
    (known : .mapping descriptor address length ∈ ledger.stack) :
    sim.mappings[address.value]? = some length :=
  custody.mappings.has (address.value, length)
    (List.mem_append_left _ (List.mem_filterMap.mpr ⟨_, known, rfl⟩))

theorem mapping_apart (custody : Custody refusable container base ledger sim)
    {descriptor : FileFd} {address : HostAddress} {length : Nat} {rest : List Holding}
    (top : ledger.stack = .mapping descriptor address length :: rest) (other : FileFd)
    (size : Nat) : .mapping other address size ∉ rest := by
  intro member
  have distinct := custody.mappings.distinct
  obtain ⟨_, stack, _, _, _, _, _, _, _⟩ := ledger
  cases top
  refine (List.nodup_cons.mp distinct).1 (List.mem_map.mpr ⟨(address.value, size), ?_, rfl⟩)
  exact List.mem_append_left _ (List.mem_filterMap.mpr ⟨_, member, rfl⟩)

theorem closeFile (custody : Custody refusable container base ledger sim) {path : String}
    {descriptor : FileFd} {rest : List Holding}
    (top : ledger.stack = .file path descriptor :: rest) :
    sim.close descriptor.number = (.ok (), (sim.close descriptor.number).2) ∧
      Custody refusable container base (ledger.release rest) (sim.close descriptor.number).2 := by
  have found : sim.descriptors[descriptor.number]? = some .file :=
    custody.descriptor_open (top ▸ List.mem_cons_self)
  have fresh := custody.fresh.step (.close descriptor.number)
  have frame := Aside.closeFile sim descriptor.number found
  obtain ⟨_, stack, _, _, _, _, _, _, _⟩ := ledger
  cases top
  rw [Simulator.close_eq, found] at fresh frame ⊢
  exact ⟨rfl, custody.aside frame fresh rfl custody.descriptors.erase custody.mappings
    custody.registrations⟩

theorem unmap (custody : Custody refusable container base ledger sim) {descriptor : FileFd}
    {address : HostAddress} {length : Nat} {rest : List Holding}
    (top : ledger.stack = .mapping descriptor address length :: rest) :
    sim.unmap address length = (.ok (), (sim.unmap address length).2) ∧
      Custody refusable container base (ledger.release rest) (sim.unmap address length).2 := by
  have found : sim.mappings[address.value]? = some length :=
    custody.mapping_live (top ▸ List.mem_cons_self)
  have fresh := custody.fresh.step (.unmap address length)
  have frame := Aside.unmap sim address length
  obtain ⟨_, stack, _, _, _, _, _, _, _⟩ := ledger
  cases top
  rw [Simulator.unmap_eq, if_pos found] at fresh frame ⊢
  exact ⟨rfl, custody.aside frame fresh rfl custody.descriptors custody.mappings.erase
    custody.registrations⟩

/-! ### Registrations -/

theorem mapDma (custody : Custody refusable container base ledger sim) (address : HostAddress)
    (length : Nat) :
    Comes refusable container base ledger.countRegistration
      (fun _ => ledger.countRegistration.push (.buffer address length))
      (sim.mapDma container address address.identity length) := by
  have fresh := custody.fresh.step (.mapDma container address address.identity length)
  have frame := Aside.mapDma sim container address address.identity length
  have tables := sim.mapDma_tables container address address.identity length
  generalize sim.mapDma container address address.identity length = outcome at *
  obtain ⟨result, after⟩ := outcome
  obtain ⟨descriptors, mappings, registrations⟩ := tables
  dsimp only at fresh frame descriptors mappings registrations
  have held := custody.descriptors
  rw [← descriptors] at held
  have maps := custody.mappings
  rw [← mappings] at maps
  cases result with
  | error failure =>
      have registered := custody.registrations
      rw [← registrations] at registered
      exact custody.aside frame fresh rfl held maps registered
  | ok _ =>
      have registered := custody.registrations.insert length registrations.1
      rw [← registrations.2] at registered
      exact custody.aside frame fresh rfl held maps registered

theorem registration_known (custody : Custody refusable container base ledger sim)
    {address : HostAddress} {length : Nat} (known : .buffer address length ∈ ledger.stack) :
    sim.registrations[(container.number, address.value)]? = some length :=
  custody.registrations.has ((container.number, address.value), length)
    (List.mem_append_left _ (List.mem_filterMap.mpr ⟨_, known, rfl⟩))

theorem page_known (custody : Custody refusable container base ledger sim) {page : HostAddress}
    (present : ledger.page = some page) :
    sim.registrations[(container.number, Staging.interruptAddress)]? =
      some Staging.interruptLength := by
  refine custody.registrations.has ((container.number, Staging.interruptAddress), _)
    (List.mem_append_right _ ?_)
  rw [present]
  exact List.mem_cons_self

theorem unmapDma (custody : Custody refusable container base ledger sim) {address : HostAddress}
    {length : Nat} {rest : List Holding} (top : ledger.stack = .buffer address length :: rest) :
    sim.unmapDma container address.identity length =
        (.ok (), (sim.unmapDma container address.identity length).2) ∧
      Custody refusable container base (ledger.release rest)
        (sim.unmapDma container address.identity length).2 := by
  have found : sim.registrations[(container.number, address.value)]? = some length :=
    custody.registration_known (top ▸ List.mem_cons_self)
  have there : sim.registrations.contains (container.number, address.identity.value) = true := by
    rw [Std.ExtTreeMap.contains_eq_isSome_getElem?]
    exact Option.isSome_of_eq_some found
  have fresh := custody.fresh.step (.unmapDma container address.identity length)
  have frame := Aside.unmapDma sim container address.identity length
  obtain ⟨_, stack, _, _, _, _, _, _, _⟩ := ledger
  cases top
  rw [Simulator.unmapDma_eq, if_pos there] at fresh frame ⊢
  exact ⟨rfl, custody.aside frame fresh rfl custody.descriptors custody.mappings
    custody.registrations.erase⟩

/-! ### The interrupt page -/

theorem mapPage (custody : Custody refusable container base ledger sim) (device : DeviceFd)
    (offset : UInt64) (absent : ledger.page = none) (untouched : ledger.loose = none) :
    Comes refusable container base ledger (fun page => ledger.withPage none (some page))
      (sim.mapDevice device offset Staging.interruptLength) := by
  have fresh := custody.fresh.step (.mapDevice device offset Staging.interruptLength)
  have frame := Aside.mapDevice sim device offset Staging.interruptLength
  rw [Simulator.mapDevice_eq] at fresh frame ⊢
  have vacant := custody.fresh.mappings sim.nextAddress (Nat.le_refl _)
  obtain ⟨_, stack, _, _, _, _, _, _, _⟩ := ledger
  cases absent
  cases untouched
  cases found : sim.descriptors[device.number]? with
  | none =>
      simp only [found] at fresh frame ⊢
      exact custody
  | some object =>
      cases object with
      | device name =>
          simp only [found] at fresh frame ⊢
          refine custody.aside frame fresh rfl custody.descriptors ?_ custody.registrations
          apply (custody.mappings.insert Staging.interruptLength vacant).perm
          exact List.perm_middle.symm
      | _ =>
          simp only [found] at fresh frame ⊢
          exact custody

theorem registerPage (custody : Custody refusable container base ledger sim)
    (absent : ledger.page = none) {page : HostAddress} (mapped : ledger.loose = some page) :
    Comes refusable container base ledger (fun _ => ledger.withPage (some page) none)
      (sim.mapDma container page DmaSpace.interruptAddress Staging.interruptLength) := by
  have fresh := custody.fresh.step
    (.mapDma container page DmaSpace.interruptAddress Staging.interruptLength)
  have frame :=
    Aside.mapDma sim container page DmaSpace.interruptAddress Staging.interruptLength
  have tables :=
    sim.mapDma_tables container page DmaSpace.interruptAddress Staging.interruptLength
  generalize sim.mapDma container page DmaSpace.interruptAddress Staging.interruptLength =
    outcome at *
  obtain ⟨result, after⟩ := outcome
  obtain ⟨descriptors, mappings, registrations⟩ := tables
  dsimp only at fresh frame descriptors mappings registrations
  obtain ⟨_, stack, _, _, _, _, _, _, _⟩ := ledger
  cases absent
  cases mapped
  have held := custody.descriptors
  rw [← descriptors] at held
  have maps := custody.mappings
  rw [← mappings] at maps
  cases result with
  | error failure =>
      have registered := custody.registrations
      rw [← registrations] at registered
      exact custody.aside frame fresh rfl held maps registered
  | ok _ =>
      have registered := custody.registrations.insert Staging.interruptLength registrations.1
      rw [← registrations.2] at registered
      exact custody.aside frame fresh rfl held maps (registered.perm List.perm_middle.symm)

theorem unregisterPage (custody : Custody refusable container base ledger sim)
    {page : HostAddress} (present : ledger.page = some page) (untouched : ledger.loose = none) :
    sim.unmapDma container DmaSpace.interruptAddress Staging.interruptLength =
        (.ok (), (sim.unmapDma container DmaSpace.interruptAddress
          Staging.interruptLength).2) ∧
      Custody refusable container base (ledger.withPage none (some page))
        (sim.unmapDma container DmaSpace.interruptAddress Staging.interruptLength).2 := by
  have there : sim.registrations.contains
      (container.number, DmaSpace.interruptAddress.value) = true := by
    rw [Std.ExtTreeMap.contains_eq_isSome_getElem?]
    exact Option.isSome_of_eq_some (custody.page_known present)
  have fresh := custody.fresh.step
    (.unmapDma container DmaSpace.interruptAddress Staging.interruptLength)
  have frame :=
    Aside.unmapDma sim container DmaSpace.interruptAddress Staging.interruptLength
  obtain ⟨_, stack, _, _, _, _, _, _, _⟩ := ledger
  cases present
  cases untouched
  rw [Simulator.unmapDma_eq, if_pos there] at fresh frame ⊢
  have registered := (custody.registrations.perm List.perm_middle).erase
  exact ⟨rfl, custody.aside frame fresh rfl custody.descriptors custody.mappings registered⟩

theorem unmapPage (custody : Custody refusable container base ledger sim)
    (absent : ledger.page = none) {page : HostAddress} (mapped : ledger.loose = some page) :
    sim.unmap page Staging.interruptLength =
        (.ok (), (sim.unmap page Staging.interruptLength).2) ∧
      Custody refusable container base (ledger.withPage none none)
        (sim.unmap page Staging.interruptLength).2 := by
  obtain ⟨_, stack, _, _, _, _, _, _, _⟩ := ledger
  cases absent
  cases mapped
  have maps := custody.mappings.perm List.perm_middle
  have found : sim.mappings[page.value]? = some Staging.interruptLength :=
    maps.has (page.value, Staging.interruptLength) List.mem_cons_self
  have fresh := custody.fresh.step (.unmap page Staging.interruptLength)
  have frame := Aside.unmap sim page Staging.interruptLength
  rw [Simulator.unmap_eq, if_pos found] at fresh frame ⊢
  exact ⟨rfl, custody.aside frame fresh rfl custody.descriptors maps.erase
    custody.registrations⟩

/-! ### The firmware -/

theorem firmware (custody : Custody refusable container base ledger sim) {after : Simulator}
    {moved : Ledger} (change : Simulator.FirmwareChange sim after)
    (descriptors : moved.descriptors = ledger.descriptors)
    (mappings : moved.mappings = ledger.mappings)
    (registrations : moved.registrations container = ledger.registrations container)
    (channel : moved.channel.Shows base after) :
    Custody refusable container base moved after where
  fresh := custody.fresh.change (.firmware change)
  descriptors := by
    rw [descriptors, change.same]
    exact custody.descriptors
  mappings := by
    rw [mappings, change.same]
    exact custody.mappings
  registrations := by
    rw [registrations, change.same]
    exact custody.registrations
  attachments := by
    rw [change.same]
    exact custody.attachments
  faults := by
    rw [change.same]
    exact custody.faults
  attributes := change.attributes.trans custody.attributes
  channel := channel

theorem openSession (custody : Custody refusable container base ledger sim)
    (unopened : ledger.channel = .unopened) (hardwareId : UInt32)
    (portals : Std.ExtTreeMap Nat Command compare) :
    Comes refusable container base ledger.call
      (fun token => ledger.call.withChannel (.opened token))
      (Simulator.told (.openSession hardwareId) (sim.openSession hardwareId).1,
        (sim.openSession hardwareId).2.withPortals portals) := by
  have change : Simulator.FirmwareChange sim (sim.openSession hardwareId).2 :=
    Simulator.serve_change sim (.openSession hardwareId)
  have shows := custody.channel
  rw [unopened] at shows
  obtain ⟨sessions, lastToken⟩ := shows
  have following : sim.nextToken = base.nextToken := by
    unfold Simulator.nextToken
    rw [lastToken]
  have closed : ledger.call.channel.Shows base
      (sim.note (.firmware (.openSession hardwareId))) := by
    rw [show ledger.call.channel = .unopened from unopened]
    exact ⟨sessions, lastToken⟩
  by_cases fault : sim.has .firmwareOpen
  · rw [Simulator.openSession_of_fault sim hardwareId fault] at change ⊢
    exact custody.firmware (change.withPortals portals) rfl rfl rfl closed
  · by_cases own : hardwareId = sim.tile.attributes.id
    · rw [Simulator.openSession_of_own sim hardwareId fault own] at change ⊢
      refine custody.firmware (change.withPortals portals) rfl rfl rfl ⟨following, ?_, following⟩
      change sim.sessions.insert sim.nextToken = _
      rw [sessions, following]
    · rw [Simulator.openSession_of_foreign sim hardwareId fault own] at change ⊢
      exact custody.firmware (change.withPortals portals) rfl rfl rfl closed

theorem session_known (custody : Custody refusable container base ledger sim) {token : Token}
    (opened : ledger.channel = .opened token) : sim.hasSession token = true := by
  have shows := custody.channel
  rw [opened] at shows
  obtain ⟨number, sessions, -⟩ := shows
  unfold Simulator.hasSession
  rw [sessions, number]
  exact Std.ExtTreeSet.contains_insert_self

theorem closeSession (custody : Custody refusable container base ledger sim) {token : Token}
    (opened : ledger.channel = .opened token) (portals : Std.ExtTreeMap Nat Command compare) :
    Custody refusable container base (ledger.withChannel .closed)
      ((sim.closeSession token).2.withPortals portals) := by
  have change : Simulator.FirmwareChange sim (sim.closeSession token).2 :=
    Simulator.serve_change sim (.closeSession token)
  have shows := custody.channel
  rw [opened] at shows
  obtain ⟨number, sessions, handed⟩ := shows
  rw [Simulator.closeSession_of_known sim token (custody.session_known opened)] at change ⊢
  refine custody.firmware (change.withPortals portals) rfl rfl rfl ⟨?_, handed⟩
  change sim.sessions.erase token.number = _
  rw [sessions, number]

theorem inSession (custody : Custody refusable container base ledger sim) {moved : Ledger}
    (call : Call) (portals : Std.ExtTreeMap Nat Command compare)
    (descriptors : moved.descriptors = ledger.descriptors)
    (mappings : moved.mappings = ledger.mappings)
    (registrations : moved.registrations container = ledger.registrations container)
    (channel : moved.channel = ledger.channel) :
    Custody refusable container base moved ((sim.inSession call).2.withPortals portals) := by
  obtain ⟨change, sessions, lastToken⟩ := Simulator.inSession_change sim call
  apply custody.firmware (change.withPortals portals) descriptors mappings registrations
  have shows := custody.channel
  rw [← channel] at shows
  unfold LoadChannel.Shows at shows ⊢
  rw [show ((sim.inSession call).2.withPortals portals).sessions = sim.sessions from sessions,
    show ((sim.inSession call).2.withPortals portals).lastToken = sim.lastToken from lastToken]
  exact shows

end Custody

end Passthrough
