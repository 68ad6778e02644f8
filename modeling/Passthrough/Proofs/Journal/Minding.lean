import Passthrough.Proofs.Journal.Minds
import Passthrough.Proofs.Session.LoadUnwind
import Passthrough.Proofs.Stock.Keeping
import Passthrough.Proofs.Tile.Effects

set_option autoImplicit false

/-! Accounts of careful use. Whoever keeps an inventory by its rules, or a ledger, calls a
platform only on what is there; so a platform that keeps its worlds fine under careful use
keeps them fine along with the account. -/

namespace Passthrough

open Files (FileTree)

theorem Act.Yields.eitherAnd {World α : Type} {action : Act World α} {world : World}
    {done : α → World → Prop} {failed always : World → Prop}
    (either : action.Yields world fun result after =>
      result.Either (fun value => done value after) (failed after))
    (known : action.Yields world fun _ after => always after) :
    action.Yields world fun result after =>
      result.Either (fun value => done value after ∧ always after)
        (failed after ∧ always after) := by
  refine (Logged.Yields.and either known).mono ?_
  rintro result after ⟨either, known⟩
  exact either.imp (fun _ done => ⟨done, known⟩) fun failed => ⟨failed, known⟩

structure Inventory.Present (inventory : Inventory) (sim : Simulator) : Prop where
  descriptors : ∀ entry ∈ inventory.descriptors, sim.descriptors[entry.1]? = some entry.2
  attachments : ∀ entry ∈ inventory.attachments, sim.attachments[entry.1]? = some entry.2
  mappings : ∀ entry ∈ inventory.mappings, sim.mappings[entry.1]? = some entry.2

theorem Stocked.present {lenient : Prop} {base sim : Simulator} {inventory : Inventory}
    (stocked : Stocked lenient base inventory sim) : inventory.Present sim :=
  ⟨stocked.descriptors.has, stocked.attachments.has, stocked.mappings.has⟩

theorem Inventory.Kept.minding {World : Type} {strange : Prop} {holds : Inventory → World → Prop}
    {platform : Platform World HostAddress} {machine : World → Simulator} {fine : World → Prop}
    {allows : Call → Prop} (kept : Inventory.Kept strange holds platform)
    (minds : platform.Minds machine fine allows)
    (present : ∀ {inventory : Inventory} {world : World}, holds inventory world →
      inventory.Present (machine world)) :
    Inventory.Kept False (fun inventory world => holds inventory world ∧ fine world) platform where
  perm held reordered := ⟨kept.perm held.1 reordered, held.2⟩
  distinct held := kept.distinct held.1
  containerGroup held container :=
    (kept.containerGroup held.1 container).and (minds.containerGroup held.2 container)
  groupDevices held group :=
    (kept.groupDevices held.1 group).and (minds.groupDevices held.2 group)
  openGroup held group := by
    refine ((kept.openGroup held.1 group).eitherAnd (minds.openGroup held.2 group)).mono ?_
    intro result after known
    exact known.imp (fun _ ⟨⟨apart, held⟩, well⟩ => ⟨apart, held, well⟩) id
  groupViable held _ _ listed :=
    (kept.groupViable held.1 listed).and
      (minds.groupViable held.2 ((present held.1).descriptors _ listed))
  setContainer held _ _ listed _ known := by
    have inside := known.resolve_left id
    obtain ⟨translating, live⟩ := inside
    exact (kept.setContainer held.1 listed (Or.inr ⟨translating, live⟩)).eitherAnd
      (minds.setContainer held.2 ((present held.1).descriptors _ listed)
        ((present held.1).descriptors _ live))
  unsetContainer held _ _ listed _ attached :=
    (kept.unsetContainer held.1 listed attached).eitherAnd
      (minds.unsetContainer held.2 ((present held.1).attachments _ attached))
  openContainer held := (kept.openContainer held.1).eitherAnd (minds.openContainer held.2)
  apiVersion held _ _ listed :=
    (kept.apiVersion held.1 listed).and
      (minds.apiVersion held.2 ((present held.1).descriptors _ listed))
  hasType1Iommu held _ _ listed :=
    (kept.hasType1Iommu held.1 listed).and
      (minds.hasType1Iommu held.2 ((present held.1).descriptors _ listed))
  setIommu held _ _ _ top :=
    (kept.setIommu held.1 top).eitherAnd
      (minds.setIommu held.2 ((present held.1).descriptors _ (top ▸ List.mem_cons_self)))
  deviceFd held _ _ listed name :=
    (kept.deviceFd held.1 listed name).eitherAnd
      (minds.deviceFd held.2 ((present held.1).descriptors _ listed) name)
  deviceInfo held _ _ listed :=
    (kept.deviceInfo held.1 listed).and
      (minds.deviceInfo held.2 ((present held.1).descriptors _ listed))
  mapPortal held _ _ listed :=
    (kept.mapPortal held.1 listed).eitherAnd
      (minds.mapPortal held.2 ((present held.1).descriptors _ listed))
  closeGroup held _ _ _ top :=
    (kept.closeGroup held.1 top).and
      (minds.close held.2 ((present held.1).descriptors _ (top ▸ List.mem_cons_self)))
  closeContainer held _ _ _ top :=
    (kept.closeContainer held.1 top).and
      (minds.close held.2 ((present held.1).descriptors _ (top ▸ List.mem_cons_self)))
  closeDevice held _ _ _ top :=
    (kept.closeDevice held.1 top).and
      (minds.close held.2 ((present held.1).descriptors _ (top ▸ List.mem_cons_self)))
  dropPortal held portal _ _ top :=
    Logged.Yields.and (kept.dropPortal held.1 top) (minds.dropPortal held.2 portal)

/-- What a load works on is there: what its ledger says, its container, and the device that the
interrupt page is mapped from. -/
structure Ledger.Present (ledger : Ledger) (space : DmaSpace) (sim : Simulator) : Prop where
  files : ∀ path descriptor, .file path descriptor ∈ ledger.stack →
    sim.descriptors[descriptor.number]? = some .file
  mappings : ∀ descriptor address length, .mapping descriptor address length ∈ ledger.stack →
    sim.mappings[address.value]? = some length
  buffers : ∀ address length, .buffer address length ∈ ledger.stack →
    sim.registrations[(space.container.number, address.value)]? = some length
  page : ∀ page, ledger.page = some page →
    sim.registrations[(space.container.number, Staging.interruptAddress)]? =
      some Staging.interruptLength
  loose : ∀ page, ledger.loose = some page →
    sim.mappings[page.value]? = some Staging.interruptLength
  container : ∃ translating,
    sim.descriptors[space.container.number]? = some (.container translating)
  source : ∃ name, sim.descriptors[space.interruptSource.number]? = some (.device name)

theorem Custody.present {refusable : Operation → Prop} {space : DmaSpace} {base sim : Simulator}
    {ledger : Ledger} (custody : Custody refusable space.container base ledger sim)
    {translating : Bool}
    (container : base.descriptors[space.container.number]? = some (.container translating))
    {name : String}
    (source : base.descriptors[space.interruptSource.number]? = some (.device name)) :
    ledger.Present space sim where
  files _ _ known := custody.descriptor_open known
  mappings _ _ _ known := custody.mapping_live known
  buffers _ _ known := custody.registration_known known
  page _ known := custody.page_known known
  loose page known := by
    refine custody.mappings.has (page.value, Staging.interruptLength)
      (List.mem_append_right _ ?_)
    rw [known]
    exact List.mem_map.mpr ⟨page, List.mem_append_right _ List.mem_cons_self, rfl⟩
  container := ⟨translating, custody.descriptors.keeps _ _ container⟩
  source := ⟨name, custody.descriptors.keeps _ _ source⟩

namespace Account

variable {World : Type} {account : Account World} {fine : World → Prop} {α : Type}

def minding (account : Account World) (fine : World → Prop) : Account World :=
  { account with holds := fun ledger world => account.holds ledger world ∧ fine world }

theorem Settles.minding {step : Fault} {failed : Ledger} {done : α → Ledger}
    {result : Result α} {world : World} (settles : account.Settles step failed done result world)
    (well : fine world) : (account.minding fine).Settles step failed done result world := by
  cases result with
  | ok value => exact ⟨settles.1, settles.2, well⟩
  | error failure => exact ⟨settles.1, settles.2, well⟩

theorem Moves.minding {failed : Ledger} {done : α → Ledger} {result : Result α} {world : World}
    (moves : account.Moves failed done result world) (well : fine world) :
    (account.minding fine).Moves failed done result world := by
  cases result with
  | ok value => exact ⟨moves, well⟩
  | error failure => exact ⟨moves, well⟩

end Account

theorem Account.Kept.minding {World : Type} {account : Account World}
    {platform : Platform World HostAddress} {machine : World → Simulator} {fine : World → Prop}
    {allows : Call → Prop} {files : FileTree} {session : Session HostAddress}
    {request : LoadRequest} {plan : LoadPlan}
    (kept : account.Kept platform files session request plan)
    (minds : platform.Minds machine fine allows)
    (allowed : ∀ call : Call, call.sparesTime = true → allows call)
    (present : ∀ {ledger : Ledger} {world : World}, account.holds ledger world →
      ledger.Present session.dma (machine world)) :
    (account.minding fine).Kept platform files session request plan where
  apart held := kept.apart held.1
  openFile held phase path _ sized :=
    (Logged.Yields.and (kept.openFile held.1 phase sized) (minds.openFile held.2 path)).mono
      fun _ _ known => known.1.minding known.2
  mapFile held phase few _ _ known _ short :=
    (Logged.Yields.and (kept.mapFile held.1 phase few known short)
      (minds.mapFile held.2 ((present held.1).files _ _ known) _)).mono
        fun _ _ known => known.1.minding known.2
  closeFile held _ _ _ top :=
    (kept.closeFile held.1 top).and
      (minds.close held.2 ((present held.1).files _ _ (top ▸ List.mem_cons_self)))
  unmap held _ _ _ _ top :=
    (kept.unmap held.1 top).and
      (minds.unmap held.2 ((present held.1).mappings _ _ _ (top ▸ List.mem_cons_self)))
  mapDma held phase _ address length mapped unregistered := by
    obtain ⟨translating, live⟩ := (present held.1).container
    exact (Logged.Yields.and (kept.mapDma held.1 phase mapped unregistered)
      (minds.mapDma held.2 live address address.identity length)).mono
        fun _ _ known => known.1.minding known.2
  unmapDma held address length _ top :=
    (kept.unmapDma held.1 top).and (minds.unmapDma held.2
      ((present held.1).buffers address length (top ▸ List.mem_cons_self)) length)
  mapPage held phase absent untouched := by
    obtain ⟨name, opened⟩ := (present held.1).source
    exact (Logged.Yields.and (kept.mapPage held.1 phase absent untouched)
      (minds.mapDevice held.2 opened _ _)).mono fun _ _ known => known.1.minding known.2
  registerPage held absent page mapped := by
    obtain ⟨translating, live⟩ := (present held.1).container
    exact (Logged.Yields.and (kept.registerPage held.1 absent mapped)
      (minds.mapDma held.2 live page DmaSpace.interruptAddress Staging.interruptLength)).mono
        fun _ _ known => known.1.minding known.2
  unregisterPage held page known untouched :=
    (kept.unregisterPage held.1 known untouched).and
      (minds.unmapDma held.2 ((present held.1).page page known) _)
  unmapPage held absent page mapped :=
    (kept.unmapPage held.1 absent mapped).and
      (minds.unmap held.2 ((present held.1).loose page mapped))
  openSession held phase unopened :=
    (Logged.Yields.and (kept.openSession held.1 phase unopened)
      (minds.request held.2 _ (allowed _ rfl))).mono fun _ _ known => known.1.minding known.2
  resetTile held phase _ opened :=
    (Logged.Yields.and (kept.resetTile held.1 phase opened)
      (minds.request held.2 _ (allowed _ rfl))).mono fun _ _ known => known.1.minding known.2
  loadTile held phase _ opened _ offered :=
    (Logged.Yields.and (kept.loadTile held.1 phase opened offered)
      (minds.request held.2 _ (allowed _ rfl))).mono fun _ _ known => known.1.minding known.2
  runTile held phase _ opened loaded _ offered :=
    (Logged.Yields.and (kept.runTile held.1 phase opened loaded offered)
      (minds.request held.2 _ (allowed _ rfl))).mono fun _ _ known => known.1.minding known.2
  closeSession held phase _ opened :=
    (Logged.Yields.and (kept.closeSession held.1 phase opened)
      (minds.request held.2 _ (allowed _ rfl))).mono fun _ _ known => known.1.minding known.2

end Passthrough
