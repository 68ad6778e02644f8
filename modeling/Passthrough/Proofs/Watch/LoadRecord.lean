import Passthrough.Proofs.Platform.Fronts
import Passthrough.Proofs.Session.LoadCourse
import Passthrough.Proofs.Watch.Record

set_option autoImplicit false

/-! The record is kept through every load on a watched platform: one statement for each
operation, and from them the record of the whole load. -/

namespace Passthrough

open Files (FileTree)
open Simulator (Step)

variable {Portal α : Type}

namespace Recorded

variable {container : ContainerFd} {base : Simulator} {files : FileTree} {request : LoadRequest}
  {ledger : Ledger} {watch : Watch}

def account (container : ContainerFd) (base : Simulator) (files : FileTree)
    (request : LoadRequest) : Account Watch :=
  { holds := Recorded container base files request
    accepts := (Tally.account container base).accepts
    rejects := (Tally.account container base).rejects }

/-! ### What is watched -/

section

variable {action : Act Simulator α} {deed : Result α → Deed} {failed : Ledger}
  {operation : Simulator → Result α × Simulator}

theorem sees (follows : action.Follows id False operation)
    (step : Step watch.machine (operation watch.machine).2) :
    (Watch.act deed action).Yields watch fun result reached =>
      ∃ after, operation watch.machine = (result, after) ∧
        watch.machine.nextAddress ≤ after.nextAddress ∧
          reached = watch.saw (deed result) after := by
  have higher := step.nextAddress_le
  refine (Watch.yields_act (follows watch.machine)).mono ?_
  intro result reached ⟨after, came, seen⟩
  rcases came with same | ⟨impossible, -⟩
  · have same : operation watch.machine = (result, after) := same.symm
    rw [same] at higher
    exact ⟨after, same, higher, seen⟩
  · exact impossible.elim

theorem settles {done : α → Ledger} {fault : Fault}
    (follows : action.Follows id False operation)
    (step : Step watch.machine (operation watch.machine).2)
    (settled : (Tally.account container base).Settles fault failed done
      (operation watch.machine).1 (operation watch.machine).2)
    (stops : ∀ failure after, watch.machine.nextAddress ≤ after.nextAddress →
      Tally container base failed after →
        Recorded container base files request failed (watch.saw (deed (.error failure)) after))
    (passes : ∀ value after, operation watch.machine = (.ok value, after) →
      watch.machine.nextAddress ≤ after.nextAddress → Tally container base (done value) after →
        Recorded container base files request (done value)
          (watch.saw (deed (.ok value)) after)) :
    (Watch.act deed action).Yields watch
      ((account container base files request).Settles fault failed done) := by
  refine (sees follows step).mono ?_
  rintro result _ ⟨after, same, higher, rfl⟩
  rw [same] at settled
  cases result with
  | ok value => exact ⟨settled.1, passes value after same higher settled.2⟩
  | error failure => exact ⟨settled.1, stops failure after higher settled.2⟩

theorem moves {done : α → Ledger} (follows : action.Follows id False operation)
    (step : Step watch.machine (operation watch.machine).2)
    (moved : (Tally.account container base).Moves failed done
      (operation watch.machine).1 (operation watch.machine).2)
    (stops : ∀ failure after, watch.machine.nextAddress ≤ after.nextAddress →
      Tally container base failed after →
        Recorded container base files request failed (watch.saw (deed (.error failure)) after))
    (passes : ∀ value after, operation watch.machine = (.ok value, after) →
      watch.machine.nextAddress ≤ after.nextAddress → Tally container base (done value) after →
        Recorded container base files request (done value)
          (watch.saw (deed (.ok value)) after)) :
    (Watch.act deed action).Yields watch
      ((account container base files request).Moves failed done) := by
  refine (sees follows step).mono ?_
  rintro result _ ⟨after, same, higher, rfl⟩
  rw [same] at moved
  cases result with
  | ok value => exact passes value after same higher moved
  | error failure => exact stops failure after higher moved

end

theorem releases {action : Act Simulator Unit} {deed : Result Unit → Deed} {moved : Ledger}
    {operation : Simulator → Result Unit × Simulator}
    (follows : action.Follows id False operation)
    (step : Step watch.machine (operation watch.machine).2)
    (done : operation watch.machine = (.ok (), (operation watch.machine).2) ∧
      Tally container base moved (operation watch.machine).2)
    (released : ∀ after, watch.machine.nextAddress ≤ after.nextAddress →
      Tally container base moved after →
        Recorded container base files request moved (watch.saw (deed (.ok ())) after)) :
    (Watch.act deed action).Yields watch fun _ after =>
      (account container base files request).holds moved after := by
  refine (sees follows step).mono ?_
  rintro result _ ⟨after, same, higher, rfl⟩
  cases done.1.symm.trans same
  exact released _ higher done.2

/-- A firmware call leaves what is held alone. -/
structure Calls (ledger moved : Ledger) : Prop where
  stack : moved.stack = ledger.stack
  page : moved.page = ledger.page
  loose : moved.loose = ledger.loose
  phase : moved.phase = .calling

theorem calls {platform : Platform Simulator Portal}
    (fronts : platform.Fronts id files fun _ => False) (portal : Portal)
    (recorded : Recorded container base files request ledger watch)
    (registrations : base.registrations = ∅) (phase : ledger.phase ≠ .releasing) (call : Call)
    (finds : call.FindsFiles container files request watch.machine watch.seen) (fault : Fault)
    (harmless : fault.failure ≠ .firmware call.name .dmaError) {failed : Ledger}
    {done : call.Reply → Ledger}
    (settled : ∀ portals, (Tally.account container base).Settles fault failed done
      (Simulator.told call (watch.machine.serve call).1)
      ((watch.machine.serve call).2.withPortals portals))
    (failing : Calls ledger failed) (passing : ∀ reply, Calls ledger (done reply)) :
    (platform.watched.request portal call).Yields watch
      ((account container base files request).Settles fault failed done) := by
  have observed {result : Result call.Reply} {after : Simulator} {moved : Ledger}
      (executed : result ≠ .error (.firmware call.name .dmaError)) (calls : Calls ledger moved)
      (higher : watch.machine.nextAddress ≤ after.nextAddress)
      (tally : Tally container base moved after) :
      Recorded container base files request moved
        (watch.saw (.request call result) after) := by
    refine recorded.observe_plain registrations tally higher rfl rfl calls.page calls.loose ?_
      (recorded.tells.call phase calls.stack calls.phase call) ⟨finds, executed⟩
    rw [calls.stack]
    exact fun _ member => Or.inl member
  refine (Watch.yields_act (fronts.request portal call watch.machine)).mono ?_
  rintro result _ ⟨after, ⟨answer, portals, reached⟩, rfl⟩
  have answer : Simulator.told call (watch.machine.serve call).1 = result := answer.symm
  have reached : (watch.machine.serve call).2.withPortals portals = after := reached.symm
  have change := (Simulator.serve_change watch.machine call).withPortals portals
  have settled := settled portals
  rw [answer, reached] at settled
  rw [reached] at change
  have unmoved : after.nextAddress = watch.machine.nextAddress := by rw [change.same]
  have higher := Nat.le_of_eq unmoved.symm
  cases result with
  | ok reply => exact ⟨settled.1, observed nofun (passing reply) higher settled.2⟩
  | error failure =>
      refine ⟨settled.1, observed ?_ failing higher settled.2⟩
      rw [settled.1.2]
      exact fun same => harmless (Except.error.inj same)

/-! ### What the firmware finds -/

theorem stagedAt (recorded : Recorded container base files request ledger watch) {path : String}
    {size : UInt32} (sized : files.HasLength path size.toNat) {address : HostAddress}
    (offered : ledger.Offers path size address) :
    StagedAt container files watch.machine watch.seen path size
      (UInt64.ofNat address.value) := by
  have fits := (recorded.tally.covers offered).1
  obtain ⟨descriptor, ⟨opened, mapped⟩, listed⟩ := offered
  refine ⟨sized, Nat.dvd_mul_left _ _, Staging.lt_stagedLength _, ?_, ?_, descriptor, ?_⟩
  · rw [fits]
    exact recorded.tally.custody.registration_known listed
  · rw [fits]
    exact recorded.tally.custody.mapping_live mapped
  · rw [fits]
    exact ⟨recorded.seen _ opened, recorded.seen _ mapped,
      recorded.tally.custody.descriptor_open opened⟩

theorem runFinds (recorded : Recorded container base files request ledger watch)
    {plan : LoadPlan} (sound : request.Sound plan files) (token : Token)
    {arguments : Option (HostAddress × UInt32)}
    (offered : ledger.OffersArguments request plan arguments) :
    (Call.run token (RunConfig.allCores (arguments.map
      fun (address, size) => (UInt64.ofNat address.value, size)))).FindsFiles container files
        request watch.machine watch.seen := by
  unfold Call.FindsFiles
  cases arguments with
  | none =>
      have unplanned : plan.argumentLength = none := offered
      have unasked : request.arguments = none := by
        have both := sound.both
        rw [unplanned] at both
        exact Option.not_isSome_iff_eq_none.mp (by rw [both]; exact nofun)
      rw [unasked]
      exact ⟨rfl, rfl⟩
  | some block =>
      obtain ⟨path, asked, planned, offers⟩ := offered
      rw [asked]
      exact recorded.stagedAt (sound.arguments path _ asked planned).1 offers

/-! ### Operation by operation -/

section

variable {platform : Platform Simulator Portal} (fronts : platform.Fronts id files fun _ => False)
  {session : Session Portal} (ready : session.Ready base)
  (recorded : Recorded session.dma.container base files request ledger watch)

include fronts ready recorded

theorem openFile (phase : ledger.phase = .staging) {path : String} {size : Nat}
    (sized : files.HasLength path size) :
    (platform.watched.openFile path).Yields watch
      ((account session.dma.container base files request).Settles (.openFile (ledger.opened + 1))
        ledger.countOpen fun descriptor => ledger.countOpen.push (.file path descriptor)) := by
  apply settles (fronts.openFile path) (.openFile files path)
    (recorded.tally.openFile sized)
  · intro failure after higher tally
    exact recorded.observe_plain ready.registrations tally higher rfl rfl rfl rfl
      (fun _ member => Or.inl member) (recorded.tells.rest rfl (Or.inl rfl)) trivial
  · intro descriptor after _ higher tally
    refine recorded.observe_plain ready.registrations tally higher rfl rfl rfl rfl ?_
      (recorded.tells.push (Or.inl phase) (.file path descriptor) rfl) trivial
    intro holding member
    rcases List.mem_cons.mp member with rfl | old
    · exact Or.inr ⟨⟨_, List.mem_cons_self, rfl⟩, nofun⟩
    · exact Or.inl old

theorem mapFile (phase : ledger.phase = .staging) (few : ledger.stack.length ≤ 3) {path : String}
    {descriptor : FileFd} (known : .file path descriptor ∈ ledger.stack) {length : Nat}
    (taken : Simulator.mappedPages length * 4096 ≤ Staging.fileSpan) :
    (platform.watched.mapFile descriptor length).Yields watch
      ((account session.dma.container base files request).Settles (.mapFile (ledger.mapped + 1))
        ledger.countMap fun address =>
          ledger.countMap.push (.mapping descriptor address length)) := by
  apply settles (fronts.mapFile descriptor length) (.mapFile descriptor length)
    (recorded.tally.mapFile ready.room phase few known taken)
  · intro failure after higher tally
    exact recorded.observe_plain ready.registrations tally higher rfl rfl rfl rfl
      (fun _ member => Or.inl member) (recorded.tells.rest rfl (Or.inl rfl)) trivial
  · intro address after same higher tally
    refine recorded.observe_plain ready.registrations tally higher rfl rfl rfl rfl ?_
      (recorded.tells.push (Or.inl phase) (.mapping descriptor address length) rfl) trivial
    intro holding member
    rcases List.mem_cons.mp member with rfl | old
    · refine Or.inr ⟨⟨_, List.mem_cons_self, rfl⟩, ?_⟩
      intro _ _ _ shape
      cases shape
      exact Simulator.mapFile_issues (congrArg Prod.fst same)
    · exact Or.inl old

theorem closeFile {path : String} {descriptor : FileFd} {rest : List Holding}
    (top : ledger.stack = .file path descriptor :: rest) :
    (platform.watched.close descriptor).Yields watch fun _ after =>
      (account session.dma.container base files request).holds (ledger.release rest) after := by
  apply releases (fronts.closeFile descriptor) (.close descriptor.number)
    (recorded.tally.closeFile top)
  intro after higher tally
  refine recorded.observe_plain ready.registrations tally higher rfl rfl rfl rfl ?_
    (recorded.tells.pop top rfl rfl) trivial
  exact fun _ member => Or.inl (top ▸ List.mem_cons_of_mem _ member)

theorem unmap {descriptor : FileFd} {address : HostAddress} {length : Nat} {rest : List Holding}
    (top : ledger.stack = .mapping descriptor address length :: rest) :
    (platform.watched.unmap address length).Yields watch fun _ after =>
      (account session.dma.container base files request).holds (ledger.release rest) after := by
  apply releases (fronts.unmap address length) (.unmap address length)
    (recorded.tally.unmap top)
  intro after higher tally
  have apart : address ∉ windows watch.seen :=
    recorded.apart descriptor address length (top ▸ List.mem_cons_self)
  refine recorded.observe_plain ready.registrations tally higher rfl rfl rfl rfl ?_ ?_ trivial
  · exact fun _ member => Or.inl (top ▸ List.mem_cons_of_mem _ member)
  · rw [Deed.effect?_unmap _ _ apart]
    exact recorded.tells.pop top rfl rfl

theorem mapDma (phase : ledger.phase = .staging ∨ ledger.phase = .registering)
    {descriptor : FileFd} {address : HostAddress} {length : Nat}
    (mapped : .mapping descriptor address length ∈ ledger.stack)
    (unregistered : ∀ size, .buffer address size ∉ ledger.stack) :
    (platform.watched.mapDma session.dma.container address address.identity length).Yields watch
      ((account session.dma.container base files request).Settles
        (.mapDma (ledger.registered + 1)) ledger.countRegistration fun _ =>
          ledger.countRegistration.push (.buffer address length)) := by
  apply settles (fronts.mapDma _ address address.identity length)
    (.mapDma _ address address.identity length)
    (recorded.tally.mapDma ready mapped unregistered)
  · intro failure after higher tally
    exact recorded.observe_plain ready.registrations tally higher rfl rfl rfl rfl
      (fun _ member => Or.inl member) (recorded.tells.rest rfl (Or.inr ⟨rfl, phase⟩)) trivial
  · intro _ after _ higher tally
    have apart : ¬ address.identity = DmaSpace.interruptAddress := fun same =>
      recorded.tally.ne_interruptAddress mapped (congrArg DeviceAddress.value same)
    refine recorded.observe_plain ready.registrations tally higher rfl ?_ rfl rfl ?_ ?_ trivial
    · exact if_neg fun same => apart same.2
    · intro holding member
      rcases List.mem_cons.mp member with rfl | old
      · exact Or.inr ⟨trivial, nofun⟩
      · exact Or.inl old
    · rw [Deed.effect?_mapDma _ _ _ _ _ apart]
      exact recorded.tells.push phase (.buffer address length) rfl

theorem unmapDma {address : HostAddress} {length : Nat} {rest : List Holding}
    (top : ledger.stack = .buffer address length :: rest) :
    (platform.watched.unmapDma session.dma.container address.identity length).Yields watch
      fun _ after =>
        (account session.dma.container base files request).holds (ledger.release rest) after := by
  apply releases (fronts.unmapDma _ address.identity length)
    (.unmapDma _ address.identity length) (recorded.tally.unmapDma top)
  intro after higher tally
  have apart : ¬ address.identity = DmaSpace.interruptAddress := by
    obtain ⟨descriptor, mapped⟩ := recorded.tally.grounded.mapping (top ▸ List.mem_cons_self)
    exact fun same =>
      recorded.tally.ne_interruptAddress mapped (congrArg DeviceAddress.value same)
  refine recorded.observe_plain ready.registrations tally higher rfl rfl rfl rfl ?_ ?_ trivial
  · exact fun _ member => Or.inl (top ▸ List.mem_cons_of_mem _ member)
  · rw [Deed.effect?_unmapDma _ _ _ _ apart]
    exact recorded.tells.pop top rfl rfl

theorem mapPage (phase : ledger.phase = .registering) (absent : ledger.page = none)
    (untouched : ledger.loose = none) (device : DeviceFd) (offset : UInt64) :
    (platform.watched.mapDevice device offset Staging.interruptLength).Yields watch
      ((account session.dma.container base files request).Moves ledger fun page =>
        ledger.withPage none (some page)) := by
  apply moves (fronts.mapDevice _ _ _) (.mapDevice _ _ _)
    (recorded.tally.mapPage phase absent untouched _ _)
  · intro failure after higher tally
    exact recorded.observe_plain ready.registrations tally higher rfl rfl rfl rfl
      (fun _ member => Or.inl member) (recorded.tells.rest rfl (Or.inl rfl)) trivial
  · intro page after same higher tally
    obtain ⟨issued, taken⟩ := Simulator.mapDevice_issues (congrArg Prod.fst same)
    rw [congrArg Prod.snd same, ← issued] at taken
    refine recorded.observe ready.registrations tally higher (fun _ member => Or.inl member)
      nofun ?_ ?_ ?_ (recorded.tells.rest rfl (Or.inl rfl)) trivial
    · intro _ loose
      cases loose
      exact List.mem_cons_self
    · intro _ shown
      cases shown
      exact taken
    · intro descriptor address length member window
      rcases List.mem_cons.mp window with rfl | old
      · have live := recorded.tally.custody.mapping_live member
        rw [recorded.tally.custody.fresh.mappings _ (Nat.le_of_eq issued.symm)] at live
        cases live
      · exact recorded.apart descriptor address length member old

theorem registerPage (absent : ledger.page = none) {page : HostAddress}
    (mapped : ledger.loose = some page) :
    (platform.watched.mapDma session.dma.container page DmaSpace.interruptAddress
      Staging.interruptLength).Yields watch
        ((account session.dma.container base files request).Moves ledger fun _ =>
          ledger.withPage (some page) none) := by
  apply moves (fronts.mapDma _ _ _ _) (.mapDma _ _ _ _)
    (recorded.tally.registerPage absent mapped)
  · intro failure after higher tally
    exact recorded.observe_plain ready.registrations tally higher rfl rfl rfl rfl
      (fun _ member => Or.inl member) (recorded.tells.rest rfl (Or.inl rfl)) trivial
  · intro _ after _ higher tally
    refine recorded.observe ready.registrations tally higher (fun _ member => Or.inl member)
      ?_ nofun nofun recorded.apart (recorded.tells.rest rfl (Or.inl rfl)) trivial
    intro _ present
    cases present
    exact ⟨recorded.loose page mapped, pageHost?_saw_mapDma _ _ _ _ _ _⟩

theorem unregisterPage {page : HostAddress} (present : ledger.page = some page)
    (untouched : ledger.loose = none) :
    (platform.watched.unmapDma session.dma.container DmaSpace.interruptAddress
      Staging.interruptLength).Yields watch fun _ after =>
        (account session.dma.container base files request).holds
          (ledger.withPage none (some page)) after := by
  apply releases (fronts.unmapDma _ _ _) (.unmapDma _ _ _)
    (recorded.tally.unregisterPage present untouched)
  intro after higher tally
  refine recorded.observe ready.registrations tally higher (fun _ member => Or.inl member)
    nofun ?_ nofun recorded.apart (recorded.tells.rest rfl (Or.inl rfl)) trivial
  intro _ loose
  cases loose
  exact (recorded.page page present).1

theorem unmapPage (absent : ledger.page = none) {page : HostAddress}
    (mapped : ledger.loose = some page) :
    (platform.watched.unmap page Staging.interruptLength).Yields watch fun _ after =>
      (account session.dma.container base files request).holds
        (ledger.withPage none none) after := by
  apply releases (fronts.unmap page _) (.unmap page _)
    (recorded.tally.unmapPage absent mapped)
  intro after higher tally
  refine recorded.observe ready.registrations tally higher (fun _ member => Or.inl member)
    nofun nofun nofun recorded.apart ?_ trivial
  rw [Deed.effect?_unmap_window _ _ (recorded.loose page mapped)]
  exact recorded.tells.rest rfl (Or.inl rfl)

end

end Recorded

theorem Platform.Fronts.recorded {platform : Platform Simulator Portal} {files : FileTree}
    (fronts : platform.Fronts id files fun _ => False) {session : Session Portal}
    {base : Simulator} (ready : session.Ready base) {request : LoadRequest} {plan : LoadPlan}
    (sound : request.Sound plan files) :
    (Recorded.account session.dma.container base files request).Kept platform.watched files
      session request plan where
  apart holds _ _ _ _ top := Tally.custody (Recorded.tally holds) |>.mapping_apart top
  openFile holds phase _ _ sized := Recorded.openFile fronts ready holds phase sized
  mapFile holds phase few _ _ known _ short :=
    Recorded.mapFile fronts ready holds phase few known (Tally.mappedPages_stagedLength short)
  closeFile holds _ _ _ top := Recorded.closeFile fronts ready holds top
  unmap holds _ _ _ _ top := Recorded.unmap fronts ready holds top
  mapDma holds phase _ _ _ mapped unregistered :=
    Recorded.mapDma fronts ready holds phase mapped unregistered
  unmapDma holds _ _ _ top := Recorded.unmapDma fronts ready holds top
  mapPage holds phase absent untouched :=
    Recorded.mapPage fronts ready holds phase absent untouched _ _
  registerPage holds absent _ mapped := Recorded.registerPage fronts ready holds absent mapped
  unregisterPage holds _ present untouched :=
    Recorded.unregisterPage fronts ready holds present untouched
  unmapPage holds absent _ mapped := Recorded.unmapPage fronts ready holds absent mapped
  openSession := by
    intro ledger watch holds phase unopened
    have recorded : Recorded _ base files request ledger watch := holds
    exact Recorded.calls fronts session.portal recorded ready.registrations phase
      (.openSession session.devices.accelerator.hardwareId) trivial .firmwareOpen nofun
      (recorded.tally.openSession ready unopened)
      ⟨rfl, rfl, rfl, rfl⟩ (fun _ => ⟨rfl, rfl, rfl, rfl⟩)
  resetTile := by
    intro ledger watch holds phase token opened
    have recorded : Recorded _ base files request ledger watch := holds
    exact Recorded.calls fronts session.portal recorded ready.registrations
      (by rw [phase]; exact nofun) (.reset token) trivial .reset nofun
      (recorded.tally.resetTile opened) ⟨rfl, rfl, rfl, phase⟩ (fun _ => ⟨rfl, rfl, rfl, phase⟩)
  loadTile := by
    intro ledger watch holds phase token opened address offered
    have recorded : Recorded _ base files request ledger watch := holds
    exact Recorded.calls fronts session.portal recorded ready.registrations
      (by rw [phase]; exact nofun) (.load token ⟨UInt64.ofNat address.value, plan.imageLength, 0⟩)
      (recorded.stagedAt sound.image offered) .load nofun
      (recorded.tally.loadTile opened offered)
      ⟨rfl, rfl, rfl, phase⟩ (fun _ => ⟨rfl, rfl, rfl, phase⟩)
  runTile := by
    intro ledger watch holds phase token opened loaded arguments offered
    have recorded : Recorded _ base files request ledger watch := holds
    exact Recorded.calls fronts session.portal recorded ready.registrations
      (by rw [phase]; exact nofun) (.run token _) (recorded.runFinds sound token offered) .run
      nofun (recorded.tally.runTile opened loaded offered)
      ⟨rfl, rfl, rfl, phase⟩ (fun _ => ⟨rfl, rfl, rfl, phase⟩)
  closeSession := by
    intro ledger watch holds phase token opened
    have recorded : Recorded _ base files request ledger watch := holds
    exact Recorded.calls fronts session.portal recorded ready.registrations
      (by rw [phase]; exact nofun) (.closeSession token) trivial .firmwareClose nofun
      (recorded.tally.closeSession opened)
      ⟨rfl, rfl, rfl, phase⟩ (fun _ => ⟨rfl, rfl, rfl, phase⟩)

theorem Recorded.start {sim : Simulator} (fresh : sim.Fresh) (container : ContainerFd)
    (files : FileTree) (request : LoadRequest) :
    Recorded container sim files request
      (Ledger.start sim.filesOpened sim.filesMapped sim.buffersRegistered sim.tile.state)
      ⟨sim, []⟩ where
  tally := Tally.start fresh
  seen := List.forall_mem_nil _
  page := nofun
  loose := nofun
  issued := List.forall_mem_nil _
  apart := nofun
  tells := ⟨[], [], rfl, fun _ => rfl, fun _ => rfl⟩
  sound := by
    intro later observation earlier split
    cases later <;> cases split

end Passthrough
