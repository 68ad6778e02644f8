import Passthrough.Proofs.Session.Custody

set_option autoImplicit false

/-! What decides whether a step of a load succeeds. On a machine that is ready for a session,
and refuses nothing of its own accord, every step passes unless a fault is injected for just
that step: the tally keeps the counts of calls, the tile, and where the staged files lie,
beside what is in custody. -/

namespace Passthrough

open Files (FileTree)
open Simulator (OpenObject refusal)

def Fault.failure : Fault → DriverError
  | .openGroup => refusal "open VFIO group" .inputOutput
  | .groupStatus => refusal "VFIO_GROUP_GET_STATUS" .inputOutput
  | .setContainer => refusal "VFIO_GROUP_SET_CONTAINER" .inputOutput
  | .setIommu => refusal "VFIO_SET_IOMMU" .inputOutput
  | .deviceInfo => refusal "VFIO_DEVICE_GET_INFO" .inputOutput
  | .mapPortal => refusal "mmap MC portal" .inputOutput
  | .openFile _ => refusal "open file" .inputOutput
  | .mapFile _ => refusal "mmap file" .inputOutput
  | .mapDma _ => refusal "VFIO_IOMMU_MAP_DMA" .inputOutput
  | .mapInterruptPage => refusal "VFIO_IOMMU_MAP_DMA" .inputOutput
  | .firmwareOpen => .firmware "open" .noResource
  | .firmwareClose => .firmware "close" .busy
  | .reset => .firmware "reset" .unsupportedOperation
  | .load => .firmware "load" .configError
  | .run => .firmware "run" .invalidState
  | .attributes => .firmware "get_attributes" .busy
  | .serviceLayerVersion => .firmware "get_sl_version" .busy
  | .state => .firmware "get_state" .busy
  | .timeOfDay => .firmware "get_time_of_day" .busy
  | .setTimeOfDay => .firmware "set_time_of_day" .busy

theorem Fault.isValidation_failure (fault : Fault) : fault.failure.isValidation = false := by
  cases fault <;> rfl

/-- More than the addresses that staging a file takes, and those that staging a load takes. -/
def Staging.fileSpan : Nat := 4096 * 4096

def Staging.loadSpan : Nat := 4 * fileSpan

/-- The addresses that a load takes are still words of 64 bits, as all addresses have to be. The
machine counts them without a bound of its own. -/
def Simulator.HasRoom (sim : Simulator) : Prop :=
  sim.nextAddress + Staging.loadSpan ≤ UInt64.size

instance (sim : Simulator) : Decidable sim.HasRoom :=
  Nat.decLe _ _

/-- The machine is as a session finds it between operations. -/
structure Session.Ready {Portal : Type} (session : Session Portal) (sim : Simulator) : Prop where
  fresh : sim.Fresh
  container : sim.descriptors[session.dma.container.number]? = some (.container true)
  registrations : sim.registrations = ∅
  own : session.devices.accelerator.hardwareId = sim.tile.attributes.id
  room : sim.HasRoom

namespace Holding

/-- Buffers lie on mappings that were there before them. -/
def Grounded : List Holding → Prop
  | [] => True
  | .buffer address length :: below =>
      (∃ descriptor, .mapping descriptor address length ∈ below) ∧ Grounded below
  | .file _ _ :: below => Grounded below
  | .mapping _ _ _ :: below => Grounded below

theorem Grounded.tail {holding : Holding} {below : List Holding}
    (grounded : Grounded (holding :: below)) : Grounded below := by
  cases holding with
  | buffer address length => exact grounded.2
  | file path descriptor => exact grounded
  | mapping descriptor address length => exact grounded

theorem Grounded.mapping {stack : List Holding} (grounded : Grounded stack)
    {address : HostAddress} {length : Nat} (listed : .buffer address length ∈ stack) :
    ∃ descriptor, .mapping descriptor address length ∈ stack := by
  induction stack with
  | nil => cases listed
  | cons holding below ih =>
      rcases List.mem_cons.mp listed with rfl | later
      · obtain ⟨descriptor, mapped⟩ := grounded.1
        exact ⟨descriptor, List.mem_cons_of_mem _ mapped⟩
      · obtain ⟨descriptor, mapped⟩ := ih grounded.tail later
        exact ⟨descriptor, List.mem_cons_of_mem _ mapped⟩

end Holding

def Simulator.counts (sim : Simulator) : Nat × Nat × Nat :=
  (sim.filesOpened, sim.filesMapped, sim.buffersRegistered)

def Ledger.counts (ledger : Ledger) : Nat × Nat × Nat :=
  (ledger.opened, ledger.mapped, ledger.registered)

structure Tally (container : ContainerFd) (base : Simulator) (ledger : Ledger)
    (sim : Simulator) : Prop where
  custody : Custody (fun _ => False) container base ledger sim
  counts : sim.counts = ledger.counts
  tile : sim.tile = { base.tile with state := ledger.tile }
  grounded : Holding.Grounded ledger.stack
  placed : ∀ descriptor address length, .mapping descriptor address length ∈ ledger.stack →
    Simulator.firstAddress ≤ address.value ∧ address.value < UInt64.size
  /-- Only staging takes addresses for files. -/
  room : ledger.phase = .staging →
    sim.nextAddress ≤ base.nextAddress + Staging.fileSpan * ledger.stack.length

/-- The account of a machine that refuses nothing: a step is hit by a fault or it passes. -/
def Tally.account (container : ContainerFd) (base : Simulator) : Account Simulator :=
  { holds := Tally container base
    accepts := fun step => base.has step = false
    rejects := fun step failure => base.has step = true ∧ failure = step.failure }

namespace Tally

variable {container : ContainerFd} {base sim after : Simulator} {ledger moved : Ledger}

theorem has (tally : Tally container base ledger sim) (fault : Fault) :
    sim.has fault = base.has fault := by
  unfold Simulator.has
  rw [tally.custody.faults]

theorem frame (tally : Tally container base ledger sim)
    (custody : Custody (fun _ => False) container base moved after)
    (counted : after.counts = sim.counts) (tile : after.tile = sim.tile)
    (counts : moved.counts = ledger.counts) (state : moved.tile = ledger.tile)
    (suffix : moved.stack <:+ ledger.stack)
    (room : moved.phase = .staging → after.nextAddress = sim.nextAddress ∧
      ledger.phase = .staging ∧ moved.stack = ledger.stack) :
    Tally container base moved after where
  custody := custody
  counts := counted.trans (tally.counts.trans counts.symm)
  tile := by rw [tile, tally.tile, state]
  grounded := by
    obtain ⟨released, split⟩ := suffix
    have grounded := tally.grounded
    rw [← split] at grounded
    clear split
    induction released with
    | nil => exact grounded
    | cons _ _ ih => exact ih grounded.tail
  placed descriptor address length listed :=
    tally.placed descriptor address length (suffix.subset listed)
  room staging := by
    obtain ⟨same, before, stack⟩ := room staging
    rw [same, stack]
    exact tally.room before

theorem start (ready : sim.Fresh) :
    Tally container sim
      (Ledger.start sim.filesOpened sim.filesMapped sim.buffersRegistered sim.tile.state) sim where
  custody := Custody.start ready _ _ _ _
  counts := rfl
  tile := rfl
  grounded := trivial
  placed := nofun
  room _ := Nat.le_add_right _ _

/-! ### Files and their mappings -/

theorem openFile (tally : Tally container base ledger sim) {files : FileTree} {path : String}
    {size : Nat} (sized : files.HasLength path size) :
    (account container base).Settles (.openFile (ledger.opened + 1)) ledger.countOpen
      (fun descriptor => ledger.countOpen.push (.file path descriptor))
      (Simulator.openFile files sim path).1 (Simulator.openFile files sim path).2 := by
  have custody := tally.custody.openFile files path
  have opened : sim.filesOpened = ledger.opened := congrArg Prod.fst tally.counts
  have counts : sim.countOpen.counts = ledger.countOpen.counts :=
    congrArg (fun counts : Nat × Nat × Nat => (counts.1 + 1, counts.2)) tally.counts
  have regular : Simulator.isRegular files path = true := by
    obtain ⟨content, readable, found, -⟩ := sized
    unfold Simulator.isRegular
    rw [found]
  rw [← opened]
  rw [Simulator.openFile_eq] at custody ⊢
  by_cases fault : sim.has (.openFile (sim.filesOpened + 1)) = true
  · rw [if_pos fault] at custody ⊢
    refine ⟨⟨(tally.has _).symm.trans fault, rfl⟩, ?_⟩
    exact ⟨custody, counts, tally.tile, tally.grounded, tally.placed, tally.room⟩
  · rw [if_neg fault, if_pos regular] at custody ⊢
    refine ⟨(tally.has _).symm.trans (Bool.eq_false_iff.mpr fault), ?_⟩
    refine ⟨custody, counts, tally.tile, tally.grounded, ?_, ?_⟩
    · intro descriptor address length listed
      rcases List.mem_cons.mp listed with impossible | later
      · cases impossible
      · exact tally.placed descriptor address length later
    · intro staging
      have known := tally.room staging
      change sim.nextAddress ≤ base.nextAddress + Staging.fileSpan * (ledger.stack.length + 1)
      rw [Nat.mul_succ Staging.fileSpan]
      omega

theorem mappedPages_stagedLength {size : Nat} (short : size ≤ Staging.imageLimit) :
    Simulator.mappedPages (Staging.stagedLength size) * 4096 ≤ Staging.fileSpan := by
  unfold Staging.imageLimit at short
  unfold Simulator.mappedPages Staging.stagedLength Staging.pageSize Staging.fileSpan
  omega

theorem mapFile (room : base.HasRoom) (tally : Tally container base ledger sim)
    (phase : ledger.phase = .staging) (few : ledger.stack.length ≤ 3) {path : String}
    {descriptor : FileFd} (known : .file path descriptor ∈ ledger.stack) {length : Nat}
    (taken : Simulator.mappedPages length * 4096 ≤ Staging.fileSpan) :
    (account container base).Settles (.mapFile (ledger.mapped + 1)) ledger.countMap
      (fun address => ledger.countMap.push (.mapping descriptor address length))
      (sim.mapFile descriptor length).1 (sim.mapFile descriptor length).2 := by
  have custody := tally.custody.mapFile descriptor length
  have mapped : sim.filesMapped = ledger.mapped :=
    congrArg (fun counts : Nat × Nat × Nat => counts.2.1) tally.counts
  have counts : sim.countMap.counts = ledger.countMap.counts :=
    congrArg (fun counts : Nat × Nat × Nat => (counts.1, counts.2.1 + 1, counts.2.2))
      tally.counts
  have found := tally.custody.descriptor_open known
  have below := tally.room phase
  rw [← mapped]
  rw [Simulator.mapFile_eq] at custody ⊢
  by_cases fault : sim.has (.mapFile (sim.filesMapped + 1)) = true
  · rw [if_pos fault] at custody ⊢
    refine ⟨⟨(tally.has _).symm.trans fault, rfl⟩, ?_⟩
    exact ⟨custody, counts, tally.tile, tally.grounded, tally.placed, tally.room⟩
  · rw [if_neg fault] at custody ⊢
    simp only [found] at custody ⊢
    refine ⟨(tally.has _).symm.trans (Bool.eq_false_iff.mpr fault), ?_⟩
    refine ⟨custody, counts, tally.tile, tally.grounded, ?_, ?_⟩
    · intro other address size listed
      rcases List.mem_cons.mp listed with new | later
      · cases new
        refine ⟨tally.custody.fresh.floor, ?_⟩
        have bounded : Staging.fileSpan * ledger.stack.length ≤ Staging.fileSpan * 3 :=
          Nat.mul_le_mul_left _ few
        have span : 0 < Staging.fileSpan := by decide
        unfold Simulator.HasRoom Staging.loadSpan at room
        change sim.nextAddress < UInt64.size
        omega
      · exact tally.placed other address size later
    · intro staging
      change sim.nextAddress + Simulator.mappedPages length * 4096 ≤
        base.nextAddress + Staging.fileSpan * (ledger.stack.length + 1)
      rw [Nat.mul_succ Staging.fileSpan]
      omega

theorem closeFile (tally : Tally container base ledger sim) {path : String}
    {descriptor : FileFd} {rest : List Holding}
    (top : ledger.stack = .file path descriptor :: rest) :
    sim.close descriptor.number = (.ok (), (sim.close descriptor.number).2) ∧
      Tally container base (ledger.release rest) (sim.close descriptor.number).2 := by
  obtain ⟨done, custody⟩ := tally.custody.closeFile top
  have found := tally.custody.descriptor_open (top ▸ List.mem_cons_self)
  refine ⟨done, tally.frame custody ?_ ?_ rfl rfl ⟨[_], top.symm⟩ nofun⟩
  · rw [Simulator.close_eq, found]
    rfl
  · rw [Simulator.close_eq, found]
    rfl

theorem unmap (tally : Tally container base ledger sim) {descriptor : FileFd}
    {address : HostAddress} {length : Nat} {rest : List Holding}
    (top : ledger.stack = .mapping descriptor address length :: rest) :
    sim.unmap address length = (.ok (), (sim.unmap address length).2) ∧
      Tally container base (ledger.release rest) (sim.unmap address length).2 := by
  obtain ⟨done, custody⟩ := tally.custody.unmap top
  refine ⟨done, tally.frame custody ?_ ?_ rfl rfl ⟨[_], top.symm⟩ nofun⟩
  · rw [Simulator.unmap_eq]
    split <;> rfl
  · rw [Simulator.unmap_eq]
    split <;> rfl

/-! ### Registrations -/

theorem ne_interruptAddress (tally : Tally container base ledger sim) {descriptor : FileFd}
    {address : HostAddress} {length : Nat}
    (mapped : .mapping descriptor address length ∈ ledger.stack) :
    address.identity.value ≠ Staging.interruptAddress := by
  have above := (tally.placed descriptor address length mapped).1
  intro same
  rw [show address.value = Staging.interruptAddress from same] at above
  exact absurd above (by decide)

theorem registration_listed (registrations : base.registrations = ∅)
    (tally : Tally container base ledger sim) {key : Int × Nat} {length : Nat}
    (found : sim.registrations[key]? = some length) :
    (key, length) ∈ ledger.registrations container := by
  rcases tally.custody.registrations.only id key length found with listed | based
  · exact listed
  · rw [registrations, Std.ExtTreeMap.getElem?_empty] at based
    cases based

theorem mapDma {Portal : Type} {session : Session Portal} (ready : session.Ready base)
    (tally : Tally session.dma.container base ledger sim) {descriptor : FileFd}
    {address : HostAddress} {length : Nat}
    (mapped : .mapping descriptor address length ∈ ledger.stack)
    (unregistered : ∀ size, .buffer address size ∉ ledger.stack) :
    (account session.dma.container base).Settles (.mapDma (ledger.registered + 1))
      ledger.countRegistration
      (fun _ => ledger.countRegistration.push (.buffer address length))
      (sim.mapDma session.dma.container address address.identity length).1
      (sim.mapDma session.dma.container address address.identity length).2 := by
  have custody := tally.custody.mapDma address length
  have registered : sim.buffersRegistered = ledger.registered :=
    congrArg (fun counts : Nat × Nat × Nat => counts.2.2) tally.counts
  have counts : sim.countBuffer.counts = ledger.countRegistration.counts :=
    congrArg (fun counts : Nat × Nat × Nat => (counts.1, counts.2.1, counts.2.2 + 1))
      tally.counts
  have apart := tally.ne_interruptAddress mapped
  have container : sim.descriptors[session.dma.container.number]? = some (.container true) :=
    tally.custody.descriptors.keeps _ _ ready.container
  have live : sim.isMapped address length = true := by
    unfold Simulator.isMapped
    rw [tally.custody.mapping_live mapped]
    exact decide_eq_true (Nat.le_refl length)
  have vacant : ¬ sim.registrations.contains
      (session.dma.container.number, address.identity.value) = true := by
    rw [Std.ExtTreeMap.contains_eq_isSome_getElem?]
    intro there
    obtain ⟨size, found⟩ := Option.isSome_iff_exists.mp there
    rcases List.mem_append.mp (tally.registration_listed ready.registrations found) with
      listed | page
    · obtain ⟨holding, held, entry⟩ := List.mem_filterMap.mp listed
      cases holding with
      | buffer other size =>
          have same : other = address := congrArg HostAddress.mk
            (congrArg (fun entry : (Int × Nat) × Nat => entry.1.2) (Option.some.inj entry))
          exact unregistered size (same ▸ held)
      | _ => cases entry
    · obtain ⟨_, _, entry⟩ := List.mem_map.mp page
      exact apart (congrArg (fun entry : (Int × Nat) × Nat => entry.1.2) entry).symm
  rw [← registered]
  rw [Simulator.mapDma_buffer sim _ _ _ _ apart] at custody ⊢
  by_cases fault : sim.has (.mapDma (sim.buffersRegistered + 1)) = true
  · rw [if_pos fault] at custody ⊢
    refine ⟨⟨(tally.has _).symm.trans fault, rfl⟩, ?_⟩
    exact ⟨custody, counts, tally.tile, tally.grounded, tally.placed, nofun⟩
  · rw [if_neg fault] at custody ⊢
    simp only [container, if_pos, live, if_neg vacant] at custody ⊢
    refine ⟨(tally.has _).symm.trans (Bool.eq_false_iff.mpr fault), ?_⟩
    refine ⟨custody, counts, tally.tile, ⟨⟨descriptor, mapped⟩, tally.grounded⟩, ?_, nofun⟩
    intro other place size listed
    rcases List.mem_cons.mp listed with impossible | later
    · cases impossible
    · exact tally.placed other place size later

theorem unmapDma (tally : Tally container base ledger sim) {address : HostAddress} {length : Nat}
    {rest : List Holding} (top : ledger.stack = .buffer address length :: rest) :
    sim.unmapDma container address.identity length =
        (.ok (), (sim.unmapDma container address.identity length).2) ∧
      Tally container base (ledger.release rest)
        (sim.unmapDma container address.identity length).2 := by
  obtain ⟨done, custody⟩ := tally.custody.unmapDma top
  refine ⟨done, tally.frame custody ?_ ?_ rfl rfl ⟨[_], top.symm⟩ nofun⟩
  · rw [Simulator.unmapDma_eq]
    split <;> rfl
  · rw [Simulator.unmapDma_eq]
    split <;> rfl

/-! ### The interrupt page -/

theorem mapPage (tally : Tally container base ledger sim) (phase : ledger.phase = .registering)
    (absent : ledger.page = none) (untouched : ledger.loose = none) (device : DeviceFd)
    (offset : UInt64) :
    (account container base).Moves ledger (fun page => ledger.withPage none (some page))
      (sim.mapDevice device offset Staging.interruptLength).1
      (sim.mapDevice device offset Staging.interruptLength).2 := by
  have custody := tally.custody.mapPage device offset absent untouched
  have steady : (sim.mapDevice device offset Staging.interruptLength).2.counts = sim.counts ∧
      (sim.mapDevice device offset Staging.interruptLength).2.tile = sim.tile := by
    rw [Simulator.mapDevice_eq]
    split <;> exact ⟨rfl, rfl⟩
  obtain ⟨counted, tile⟩ := steady
  generalize sim.mapDevice device offset Staging.interruptLength = outcome at *
  obtain ⟨result, after⟩ := outcome
  have unstaged : ledger.phase ≠ .staging := by
    rw [phase]
    exact nofun
  cases result with
  | ok page =>
      exact tally.frame custody counted tile rfl rfl (List.suffix_refl _)
        fun staging => absurd staging unstaged
  | error failure =>
      exact tally.frame custody counted tile rfl rfl (List.suffix_refl _)
        fun staging => absurd staging unstaged

theorem registerPage (tally : Tally container base ledger sim) (absent : ledger.page = none)
    {page : HostAddress} (mapped : ledger.loose = some page) :
    (account container base).Moves ledger (fun _ => ledger.withPage (some page) none)
      (sim.mapDma container page DmaSpace.interruptAddress Staging.interruptLength).1
      (sim.mapDma container page DmaSpace.interruptAddress Staging.interruptLength).2 := by
  have custody := tally.custody.registerPage absent mapped
  have steady : ∀ outcome, outcome =
      sim.mapDma container page DmaSpace.interruptAddress Staging.interruptLength →
        outcome.2.counts = sim.counts ∧ outcome.2.tile = sim.tile ∧
          outcome.2.nextAddress = sim.nextAddress := by
    rintro _ rfl
    have uncounted : sim.countRegistration DmaSpace.interruptAddress = sim := if_pos rfl
    rw [Simulator.mapDma_eq]
    dsimp only
    rw [uncounted]
    repeat' split
    all_goals exact ⟨rfl, rfl, rfl⟩
  generalize sim.mapDma container page DmaSpace.interruptAddress Staging.interruptLength =
    outcome at *
  obtain ⟨counted, tile, address⟩ := steady _ rfl
  obtain ⟨result, after⟩ := outcome
  cases result with
  | ok _ =>
      exact tally.frame custody counted tile rfl rfl (List.suffix_refl _)
        fun staging => ⟨address, staging, rfl⟩
  | error failure =>
      exact tally.frame custody counted tile rfl rfl (List.suffix_refl _)
        fun staging => ⟨address, staging, rfl⟩

theorem unregisterPage (tally : Tally container base ledger sim) {page : HostAddress}
    (present : ledger.page = some page) (untouched : ledger.loose = none) :
    sim.unmapDma container DmaSpace.interruptAddress Staging.interruptLength =
        (.ok (), (sim.unmapDma container DmaSpace.interruptAddress
          Staging.interruptLength).2) ∧
      Tally container base (ledger.withPage none (some page))
        (sim.unmapDma container DmaSpace.interruptAddress Staging.interruptLength).2 := by
  obtain ⟨done, custody⟩ := tally.custody.unregisterPage present untouched
  have steady : ∀ after,
      after = (sim.unmapDma container DmaSpace.interruptAddress Staging.interruptLength).2 →
        after.counts = sim.counts ∧ after.tile = sim.tile ∧
          after.nextAddress = sim.nextAddress := by
    rintro _ rfl
    rw [Simulator.unmapDma_eq]
    split <;> exact ⟨rfl, rfl, rfl⟩
  obtain ⟨counted, tile, address⟩ := steady _ rfl
  exact ⟨done, tally.frame custody counted tile rfl rfl (List.suffix_refl _)
    fun staging => ⟨address, staging, rfl⟩⟩

theorem unmapPage (tally : Tally container base ledger sim) (absent : ledger.page = none)
    {page : HostAddress} (mapped : ledger.loose = some page) :
    sim.unmap page Staging.interruptLength =
        (.ok (), (sim.unmap page Staging.interruptLength).2) ∧
      Tally container base (ledger.withPage none none)
        (sim.unmap page Staging.interruptLength).2 := by
  obtain ⟨done, custody⟩ := tally.custody.unmapPage absent mapped
  have steady : ∀ after, after = (sim.unmap page Staging.interruptLength).2 →
      after.counts = sim.counts ∧ after.tile = sim.tile ∧
        after.nextAddress = sim.nextAddress := by
    rintro _ rfl
    rw [Simulator.unmap_eq]
    split <;> exact ⟨rfl, rfl, rfl⟩
  obtain ⟨counted, tile, address⟩ := steady _ rfl
  exact ⟨done, tally.frame custody counted tile rfl rfl (List.suffix_refl _)
    fun staging => ⟨address, staging, rfl⟩⟩

/-! ### The firmware -/

theorem firmware (tally : Tally container base ledger sim)
    (custody : Custody (fun _ => False) container base moved after)
    (change : Simulator.FirmwareChange sim after)
    (tile : after.tile = { base.tile with state := moved.tile })
    (counts : moved.counts = ledger.counts) (stack : moved.stack = ledger.stack)
    (phase : moved.phase = .staging → ledger.phase = .staging) :
    Tally container base moved after where
  custody := custody
  counts := by
    rw [change.same, counts]
    exact tally.counts
  tile := tile
  grounded := stack ▸ tally.grounded
  placed := stack ▸ tally.placed
  room staging := by
    rw [change.same, stack]
    exact tally.room (phase staging)

theorem openSession {Portal : Type} {session : Session Portal} (ready : session.Ready base)
    (tally : Tally session.dma.container base ledger sim) (unopened : ledger.channel = .unopened)
    (portals : Std.ExtTreeMap Nat Command compare) :
    (account session.dma.container base).Settles .firmwareOpen ledger.call
      (fun token => ledger.call.withChannel (.opened token))
      (Simulator.told (.openSession session.devices.accelerator.hardwareId)
        (sim.openSession session.devices.accelerator.hardwareId).1)
      ((sim.openSession session.devices.accelerator.hardwareId).2.withPortals portals) := by
  have custody := tally.custody.openSession unopened session.devices.accelerator.hardwareId
    portals
  have change : Simulator.FirmwareChange sim
      (sim.openSession session.devices.accelerator.hardwareId).2 :=
    Simulator.serve_change sim (.openSession session.devices.accelerator.hardwareId)
  have own : session.devices.accelerator.hardwareId = sim.tile.attributes.id := by
    rw [ready.own, tally.custody.attributes]
  by_cases fault : sim.has .firmwareOpen = true
  · rw [Simulator.openSession_of_fault sim _ fault] at custody change ⊢
    refine ⟨⟨(tally.has _).symm.trans fault, rfl⟩, ?_⟩
    exact tally.firmware custody (change.withPortals portals) tally.tile rfl rfl nofun
  · rw [Simulator.openSession_of_own sim _ fault own] at custody change ⊢
    refine ⟨(tally.has _).symm.trans (Bool.eq_false_iff.mpr fault), ?_⟩
    exact tally.firmware custody (change.withPortals portals) tally.tile rfl rfl nofun

theorem closeSession (tally : Tally container base ledger sim) {token : Token}
    (opened : ledger.channel = .opened token) (portals : Std.ExtTreeMap Nat Command compare) :
    (account container base).Settles .firmwareClose (ledger.withChannel .closed)
      (fun _ => ledger.withChannel .closed)
      (Simulator.told (.closeSession token) (sim.closeSession token).1)
      ((sim.closeSession token).2.withPortals portals) := by
  have custody := tally.custody.closeSession opened portals
  have change : Simulator.FirmwareChange sim (sim.closeSession token).2 :=
    Simulator.serve_change sim (.closeSession token)
  rw [Simulator.closeSession_of_known sim token (tally.custody.session_known opened)]
    at custody change ⊢
  by_cases fault : sim.has .firmwareClose = true
  · rw [if_pos fault]
    refine ⟨⟨(tally.has _).symm.trans fault, rfl⟩, ?_⟩
    exact tally.firmware custody (change.withPortals portals) tally.tile rfl rfl id
  · rw [if_neg fault]
    refine ⟨(tally.has _).symm.trans (Bool.eq_false_iff.mpr fault), ?_⟩
    exact tally.firmware custody (change.withPortals portals) tally.tile rfl rfl id

theorem inSession (tally : Tally container base ledger sim) (call : Call)
    (opened : ledger.channel = .opened call.token) {step : Fault} {state : TileState}
    {status : Status} {reply : call.Reply} (failure : step.failure = .firmware call.name status)
    (answered : sim.answer call =
      if sim.has step then .error status else .ok (reply, { sim.tile with state := state }))
    (portals : Std.ExtTreeMap Nat Command compare) :
    (account container base).Settles step ledger (fun _ => ledger.withTile state)
      (Simulator.told call (sim.inSession call).1)
      ((sim.inSession call).2.withPortals portals) := by
  have known := tally.custody.session_known opened
  obtain ⟨change, -⟩ := Simulator.inSession_change sim call
  by_cases fault : sim.has step = true
  · rw [if_pos fault] at answered
    have custody : Custody (fun _ => False) container base ledger _ :=
      tally.custody.inSession call portals rfl rfl rfl rfl
    rw [Simulator.inSession_of_refusal sim call status known answered] at custody change ⊢
    refine ⟨⟨(tally.has _).symm.trans fault, failure.symm⟩, ?_⟩
    exact tally.firmware custody (change.withPortals portals) tally.tile rfl rfl id
  · rw [if_neg fault] at answered
    have custody : Custody (fun _ => False) container base (ledger.withTile state) _ :=
      tally.custody.inSession call portals rfl rfl rfl rfl
    rw [Simulator.inSession_of_answer sim call reply _ known answered] at custody change ⊢
    refine ⟨(tally.has _).symm.trans (Bool.eq_false_iff.mpr fault), ?_⟩
    refine tally.firmware custody (change.withPortals portals) ?_ rfl rfl id
    exact congrArg (fun tile : Tile => { tile with state := state }) tally.tile

theorem covers (tally : Tally container base ledger sim) {path : String} {size : UInt32}
    {address : HostAddress} (offered : ledger.Offers path size address) :
    (UInt64.ofNat address.value).toNat = address.value ∧
      sim.covers (UInt64.ofNat address.value).toNat size.toNat = true := by
  obtain ⟨descriptor, ⟨-, mapped⟩, listed⟩ := offered
  have fits : (UInt64.ofNat address.value).toNat = address.value :=
    UInt64.toNat_ofNat_of_lt' (tally.placed _ _ _ mapped).2
  refine ⟨fits, ?_⟩
  rw [fits]
  refine List.any_eq_true.mpr ⟨((container.number, address.value), _),
    Std.ExtTreeMap.mem_toList_iff_getElem?_eq_some.mpr (tally.custody.registration_known listed),
    ?_⟩
  have beyond := Staging.lt_stagedLength size.toNat
  simp only [Bool.and_eq_true, decide_eq_true_eq]
  omega

theorem covers_arguments (tally : Tally container base ledger sim) {request : LoadRequest}
    {plan : LoadPlan} {arguments : Option (HostAddress × UInt32)}
    (offered : ledger.OffersArguments request plan arguments) :
    let config := RunConfig.allCores (arguments.map
      fun (address, size) => (UInt64.ofNat address.value, size))
    ¬ (config.argumentSize ≠ 0 ∧
      (!sim.covers config.argumentAddress.toNat config.argumentSize.toNat) = true) := by
  intro config ⟨given, uncovered⟩
  cases arguments with
  | none => exact given rfl
  | some block =>
      obtain ⟨path, -, -, offers⟩ := offered
      have covered : sim.covers config.argumentAddress.toNat config.argumentSize.toNat = true :=
        (tally.covers offers).2
      rw [covered] at uncovered
      cases uncovered

theorem resetTile (tally : Tally container base ledger sim) {token : Token}
    (opened : ledger.channel = .opened token) (portals : Std.ExtTreeMap Nat Command compare) :
    (account container base).Settles .reset ledger (fun _ => ledger.withTile .resetDone)
      (Simulator.told (.reset token) (sim.inSession (.reset token)).1)
      ((sim.inSession (.reset token)).2.withPortals portals) :=
  tally.inSession (.reset token) opened rfl (sim.answer_reset token) portals

theorem loadTile (tally : Tally container base ledger sim) {token : Token}
    (opened : ledger.channel = .opened token) {path : String} {size : UInt32}
    {address : HostAddress} (offered : ledger.Offers path size address)
    (portals : Std.ExtTreeMap Nat Command compare) :
    (account container base).Settles .load ledger (fun _ => ledger.withTile .loadDone)
      (Simulator.told (.load token ⟨UInt64.ofNat address.value, size, 0⟩)
        (sim.inSession (.load token ⟨UInt64.ofNat address.value, size, 0⟩)).1)
      ((sim.inSession (.load token ⟨UInt64.ofNat address.value, size, 0⟩)).2.withPortals
        portals) := by
  have answered := sim.answer_load token ⟨UInt64.ofNat address.value, size, 0⟩
  rw [if_pos (tally.covers offered).2] at answered
  exact tally.inSession (.load token _) opened rfl answered portals

theorem runTile (tally : Tally container base ledger sim) {token : Token}
    (opened : ledger.channel = .opened token) (loaded : ledger.tile = .loadDone)
    {request : LoadRequest} {plan : LoadPlan} {arguments : Option (HostAddress × UInt32)}
    (offered : ledger.OffersArguments request plan arguments)
    (portals : Std.ExtTreeMap Nat Command compare) :
    let call := Call.run token (RunConfig.allCores (arguments.map
      fun (address, size) => (UInt64.ofNat address.value, size)))
    (account container base).Settles .run ledger (fun _ => ledger.withTile .running)
      (Simulator.told call (sim.inSession call).1)
      ((sim.inSession call).2.withPortals portals) := by
  intro call
  have state : sim.tile.state = .loadDone := by
    rw [tally.tile]
    exact loaded
  have answered := sim.answer_run token (RunConfig.allCores (arguments.map
    fun (address, size) => (UInt64.ofNat address.value, size)))
  rw [if_neg (not_not_intro state), if_neg (tally.covers_arguments offered)] at answered
  exact tally.inSession call opened rfl answered portals

end Tally

end Passthrough
