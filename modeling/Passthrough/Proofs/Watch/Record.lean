import Passthrough.Proofs.Session.Tally
import Passthrough.Proofs.Watch.Basic

set_option autoImplicit false

/-! What is seen of a load. Beside the tally, the record of a load says where everything that is
held came from, that buffers lie on live mappings after every call, that the firmware finds
each file where it is told, and that releases go through what was acquired in reverse,
after the last call to the firmware. -/

namespace Passthrough

open Files (FileTree)

/-- Buffers lie at their own address on live mappings of their length, and the interrupt page is
registered only while the mapping it was registered from is live. -/
structure Upheld (container : ContainerFd) (seen : List Observation) (sim : Simulator) :
    Prop where
  buffers : ∀ (address length : Nat),
    sim.registrations[(container.number, address)]? = some length →
      address ≠ Staging.interruptAddress → sim.mappings[address]? = some length
  page : ∀ length : Nat,
    sim.registrations[(container.number, Staging.interruptAddress)]? = some length →
      ∃ page, pageHost? container seen = some page ∧ sim.mappings[page.value]? = some length

/-- A whole file lies registered at an address, in memory mapped from the file, which is open. -/
structure StagedAt (container : ContainerFd) (files : FileTree) (now : Simulator)
    (earlier : List Observation) (path : String) (size : UInt32) (address : UInt64) : Prop where
  exact : files.HasLength path size.toNat
  pages : Staging.pageSize ∣ Staging.stagedLength size.toNat
  beyond : size.toNat < Staging.stagedLength size.toNat
  registered : now.registrations[(container.number, address.toNat)]? =
    some (Staging.stagedLength size.toNat)
  mapped : now.mappings[address.toNat]? = some (Staging.stagedLength size.toNat)
  opened : ∃ file : FileFd, (∃ observation ∈ earlier,
      observation.deed = .openFile path (.ok file)) ∧
    (∃ observation ∈ earlier, observation.deed =
      .mapFile file (Staging.stagedLength size.toNat) (.ok ⟨address.toNat⟩)) ∧
    now.descriptors[file.number]? = some .file

def Call.FindsFiles (container : ContainerFd) (files : FileTree) (request : LoadRequest)
    (now : Simulator) (earlier : List Observation) : Call → Prop
  | .load _ config =>
      StagedAt container files now earlier request.image config.size config.address
  | .run _ config =>
      match request.arguments with
      | none => config.argumentAddress = 0 ∧ config.argumentSize = 0
      | some path =>
          StagedAt container files now earlier path config.argumentSize config.argumentAddress
  | _ => True

/-- The firmware finds all files, and never misses a registration. -/
def Deed.Executes (container : ContainerFd) (files : FileTree) (request : LoadRequest)
    (now : Simulator) (earlier : List Observation) : Deed → Prop
  | .request call result =>
      call.FindsFiles container files request now earlier ∧
        result ≠ .error (.firmware call.name .dmaError)
  | _ => True

structure Observation.Sound (container : ContainerFd) (files : FileTree) (request : LoadRequest)
    (observation : Observation) (earlier : List Observation) : Prop where
  upheld : Upheld container (observation :: earlier) observation.after
  executes : observation.deed.Executes container files request observation.before earlier

namespace Holding

def resource : Holding → Resource
  | .file _ descriptor => .file descriptor.number
  | .mapping _ address length => .mapping address length
  | .buffer address length => .buffer address.identity length

def Seen (seen : List Observation) : Holding → Prop
  | .file path descriptor => ∃ observation ∈ seen,
      observation.deed = .openFile path (.ok descriptor)
  | .mapping descriptor address length => ∃ observation ∈ seen,
      observation.deed = .mapFile descriptor length (.ok address)
  | .buffer _ _ => True

theorem Seen.mono {holding : Holding} {seen more : List Observation} (known : holding.Seen seen)
    (subset : seen ⊆ more) : holding.Seen more := by
  cases holding with
  | file path descriptor =>
      obtain ⟨observation, member, same⟩ := known
      exact ⟨observation, subset member, same⟩
  | mapping descriptor address length =>
      obtain ⟨observation, member, same⟩ := known
      exact ⟨observation, subset member, same⟩
  | buffer address length => trivial

end Holding

/-- What was done is told by the books: first everything was acquired, then the firmware was
called, and then the last thing acquired was released first. -/
def Ledger.Tells (ledger : Ledger) (done : List Effect) : Prop :=
  ∃ released calls, done = released.map .release ++ calls.map .firmware ++
      (released.reverse ++ ledger.stack.map Holding.resource).map .acquire ∧
    (ledger.phase ≠ .releasing → released = []) ∧
    (ledger.phase = .staging ∨ ledger.phase = .registering → calls = [])

namespace Ledger.Tells

variable {ledger moved : Ledger} {done : List Effect}

theorem push (tells : ledger.Tells done)
    (early : ledger.phase = .staging ∨ ledger.phase = .registering)
    (holding : Holding) (stack : moved.stack = holding :: ledger.stack) :
    moved.Tells (.acquire holding.resource :: done) := by
  obtain ⟨released, calls, rfl, unreleased, uncalled⟩ := tells
  have none : released = [] := unreleased (by rcases early with h | h <;> rw [h] <;> exact nofun)
  cases none
  cases uncalled early
  exact ⟨[], [], by simp [stack], fun _ => rfl, fun _ => rfl⟩

theorem pop (tells : ledger.Tells done) {holding : Holding} {rest : List Holding}
    (top : ledger.stack = holding :: rest) (stack : moved.stack = rest)
    (phase : moved.phase = .releasing) : moved.Tells (.release holding.resource :: done) := by
  obtain ⟨released, calls, rfl, -, -⟩ := tells
  refine ⟨holding.resource :: released, calls, by simp [top, stack], ?_, ?_⟩
  · exact fun other => absurd phase other
  · rw [phase]
    exact fun early => by rcases early with h | h <;> cases h

theorem call (tells : ledger.Tells done) (phase : ledger.phase ≠ .releasing)
    (stack : moved.stack = ledger.stack) (calling : moved.phase = .calling) (call : Call) :
    moved.Tells (.firmware call :: done) := by
  obtain ⟨released, calls, rfl, unreleased, -⟩ := tells
  cases unreleased phase
  refine ⟨[], call :: calls, by simp [stack], fun _ => rfl, ?_⟩
  rw [calling]
  exact fun early => by rcases early with h | h <;> cases h

theorem rest (tells : ledger.Tells done) (stack : moved.stack = ledger.stack)
    (phase : moved.phase = ledger.phase ∨
      moved.phase = .registering ∧ (ledger.phase = .staging ∨ ledger.phase = .registering)) :
    moved.Tells done := by
  obtain ⟨released, calls, rfl, unreleased, uncalled⟩ := tells
  refine ⟨released, calls, by rw [stack], ?_, ?_⟩
  · intro later
    apply unreleased
    rcases phase with same | ⟨-, early⟩
    · rwa [← same]
    · rcases early with h | h <;> rw [h] <;> exact nofun
  · intro early
    apply uncalled
    rcases phase with same | ⟨-, before⟩
    · rwa [← same]
    · exact before

end Ledger.Tells

structure Recorded (container : ContainerFd) (base : Simulator) (files : FileTree)
    (request : LoadRequest) (ledger : Ledger) (watch : Watch) : Prop where
  tally : Tally container base ledger watch.machine
  seen : ∀ holding ∈ ledger.stack, holding.Seen watch.seen
  page : ∀ page, ledger.page = some page →
    page ∈ windows watch.seen ∧ pageHost? container watch.seen = some page
  loose : ∀ page, ledger.loose = some page → page ∈ windows watch.seen
  issued : ∀ page ∈ windows watch.seen, page.value < watch.machine.nextAddress
  apart : ∀ descriptor address length, .mapping descriptor address length ∈ ledger.stack →
    address ∉ windows watch.seen
  tells : ledger.Tells (effects watch.seen)
  sound : ∀ later observation earlier, watch.seen = later ++ observation :: earlier →
    observation.Sound container files request earlier

theorem Tally.upheld {container : ContainerFd} {base sim : Simulator} {ledger : Ledger}
    (tally : Tally container base ledger sim) (registrations : base.registrations = ∅)
    {seen : List Observation}
    (page : ∀ page, ledger.page = some page → pageHost? container seen = some page) :
    Upheld container seen sim := by
  have listed {address length : Nat}
      (found : sim.registrations[(container.number, address)]? = some length) :
      (∃ (host : HostAddress) (descriptor : FileFd), host.value = address ∧
        .mapping descriptor host length ∈ ledger.stack) ∨
      ∃ page, ledger.page = some page ∧ address = Staging.interruptAddress ∧
        length = Staging.interruptLength := by
    rcases List.mem_append.mp (tally.registration_listed registrations found) with buffer | window
    · obtain ⟨holding, held, entry⟩ := List.mem_filterMap.mp buffer
      cases holding with
      | buffer host size =>
          have known := Option.some.inj entry
          have same : host.value = address :=
            congrArg (fun entry : (Int × Nat) × Nat => entry.1.2) known
          have length_eq : size = length := congrArg Prod.snd known
          obtain ⟨descriptor, mapped⟩ := tally.grounded.mapping held
          exact Or.inl ⟨host, descriptor, same, length_eq ▸ mapped⟩
      | _ => cases entry
    · obtain ⟨page, present, entry⟩ := List.mem_map.mp window
      refine Or.inr ⟨page, Option.mem_toList.mp present, ?_, ?_⟩
      · exact (congrArg (fun entry : (Int × Nat) × Nat => entry.1.2) entry).symm
      · exact (congrArg Prod.snd entry).symm
  refine ⟨?_, ?_⟩
  · intro address length found other
    rcases listed found with ⟨host, descriptor, rfl, mapped⟩ | ⟨page, -, impossible, -⟩
    · exact tally.custody.mapping_live mapped
    · exact absurd impossible other
  · intro length found
    rcases listed found with ⟨host, descriptor, same, mapped⟩ | ⟨host, present, -, rfl⟩
    · exact absurd same (tally.ne_interruptAddress mapped)
    · refine ⟨host, page host present, ?_⟩
      refine tally.custody.mappings.has (host.value, Staging.interruptLength)
        (List.mem_append_right _ (List.mem_map.mpr ⟨host, ?_, rfl⟩))
      rw [present]
      exact List.mem_cons_self

namespace Recorded

variable {container : ContainerFd} {base : Simulator} {files : FileTree} {request : LoadRequest}
  {ledger moved : Ledger} {watch : Watch} {after : Simulator} {deed : Deed}

theorem observe (recorded : Recorded container base files request ledger watch)
    (registrations : base.registrations = ∅) (tally : Tally container base moved after)
    (higher : watch.machine.nextAddress ≤ after.nextAddress)
    (seen : ∀ holding ∈ moved.stack, holding ∈ ledger.stack ∨
      holding.Seen [⟨deed, watch.machine, after⟩])
    (page : ∀ page, moved.page = some page →
      page ∈ windows (watch.saw deed after).seen ∧
        pageHost? container (watch.saw deed after).seen = some page)
    (loose : ∀ page, moved.loose = some page →
      page ∈ windows (watch.saw deed after).seen)
    (issued : ∀ page, deed.window? = some page → page.value < after.nextAddress)
    (apart : ∀ descriptor address length, .mapping descriptor address length ∈ moved.stack →
      address ∉ windows (watch.saw deed after).seen)
    (tells : moved.Tells ((deed.effect? (windows watch.seen)).toList ++ effects watch.seen))
    (executes : deed.Executes container files request watch.machine watch.seen) :
    Recorded container base files request moved (watch.saw deed after) where
  tally := tally
  seen holding member := by
    rcases seen holding member with old | new
    · exact (recorded.seen holding old).mono (List.subset_cons_self _ _)
    · exact new.mono (List.cons_subset_cons _ (List.nil_subset _))
  page := page
  loose := loose
  issued := by
    intro page member
    obtain ⟨observation, listed, shows⟩ := List.mem_filterMap.mp member
    rcases List.mem_cons.mp listed with rfl | old
    · exact issued page shows
    · have before := recorded.issued page (List.mem_filterMap.mpr ⟨observation, old, shows⟩)
      exact Nat.lt_of_lt_of_le before higher
  apart := apart
  tells := tells
  sound := by
    intro later observation earlier split
    cases later with
    | nil =>
        cases split
        exact ⟨tally.upheld registrations fun host present => (page host present).2, executes⟩
    | cons last later =>
        exact recorded.sound later observation earlier (List.cons.inj split).2

theorem observe_plain (recorded : Recorded container base files request ledger watch)
    (registrations : base.registrations = ∅) (tally : Tally container base moved after)
    (higher : watch.machine.nextAddress ≤ after.nextAddress)
    (plain : deed.window? = none) (unregistered : deed.pageHost? container = none)
    (page : moved.page = ledger.page) (loose : moved.loose = ledger.loose)
    (seen : ∀ holding ∈ moved.stack, holding ∈ ledger.stack ∨
      holding.Seen [⟨deed, watch.machine, after⟩] ∧
        ∀ descriptor address length, holding = .mapping descriptor address length →
          address.value = watch.machine.nextAddress)
    (tells : moved.Tells ((deed.effect? (windows watch.seen)).toList ++ effects watch.seen))
    (executes : deed.Executes container files request watch.machine watch.seen) :
    Recorded container base files request moved (watch.saw deed after) := by
  have same := windows_saw watch plain after
  have host := pageHost?_saw watch unregistered after
  refine recorded.observe registrations tally higher ?_ ?_ ?_ ?_ ?_ tells executes
  · exact fun holding member => (seen holding member).imp_right And.left
  · rw [same, host, page]
    exact recorded.page
  · rw [same, loose]
    exact recorded.loose
  · rw [plain]
    exact nofun
  · rw [same]
    intro descriptor address length member window
    rcases seen _ member with old | ⟨-, new⟩
    · exact recorded.apart descriptor address length old window
    · have below := recorded.issued address window
      rw [new descriptor address length rfl] at below
      exact Nat.lt_irrefl _ below

end Recorded

end Passthrough
