import Passthrough.Proofs.Action.Yields
import Passthrough.Proofs.Pool.Sound

set_option autoImplicit false

/-! The course of taking a group into a pool and of giving it up again. What is held for the
group on the way is a tenure; what a tenure means in a world is left open, and so is
which calls fail. Where every call of a platform moves the tenure as it should, a group
that could not be taken leaves no tenure behind, and neither does one that is given up. -/

namespace Passthrough

/-- What is held for one group: the group while it is open, the container it is attached to, and
a container that is open for its sake alone, with whether its mode is selected. -/
structure Tenure where
  group : Option (GroupFd × GroupId)
  attached : Option ContainerFd
  container : Option (ContainerFd × Bool)

namespace Tenure

def idle : Tenure :=
  { group := none, attached := none, container := none }

def opened (descriptor : GroupFd) (group : GroupId) : Tenure :=
  { group := some (descriptor, group), attached := none, container := none }

def housed (descriptor : GroupFd) (group : GroupId) (container : ContainerFd)
    (translating : Bool) : Tenure :=
  { group := some (descriptor, group)
    attached := some container
    container := some (container, translating) }

def withAttached (tenure : Tenure) (attached : Option ContainerFd) : Tenure :=
  { tenure with attached := attached }

def withContainer (tenure : Tenure) (container : Option (ContainerFd × Bool)) : Tenure :=
  { tenure with container := container }

variable {World Portal : Type}

/-- The rules by which the calls of a platform move a tenure. Detaching may be refused. A group is
attached to a container that lodges groups already, or to its own. -/
structure Kept (lodging : ContainerFd → Prop) (holds : Tenure → World → Prop)
    (platform : Platform World Portal) : Prop where
  openGroup {world : World} (held : holds idle world) (group : GroupId) :
    (platform.openGroup group).Yields world fun result after =>
      result.Either (fun descriptor => holds (opened descriptor group) after) (holds idle after)
  groupViable {tenure : Tenure} {world : World} (held : holds tenure world)
    {descriptor : GroupFd} {group : GroupId} (opened : tenure.group = some (descriptor, group)) :
    (platform.groupViable descriptor).Yields world fun _ after => holds tenure after
  apiVersion {tenure : Tenure} {world : World} (held : holds tenure world)
    {container : ContainerFd} {translating : Bool}
    (own : tenure.container = some (container, translating)) :
    (platform.apiVersion container).Yields world fun _ after => holds tenure after
  hasType1Iommu {tenure : Tenure} {world : World} (held : holds tenure world)
    {container : ContainerFd} {translating : Bool}
    (own : tenure.container = some (container, translating)) :
    (platform.hasType1Iommu container).Yields world fun _ after => holds tenure after
  setContainer {tenure : Tenure} {world : World} (held : holds tenure world)
    {descriptor : GroupFd} {group : GroupId} (opened : tenure.group = some (descriptor, group))
    (detached : tenure.attached = none) {container : ContainerFd}
    (known : lodging container ∨ ∃ translating, tenure.container = some (container, translating)) :
    (platform.setContainer descriptor container).Yields world fun result after =>
      result.Either (fun _ => holds (tenure.withAttached (some container)) after)
        (holds tenure after)
  unsetContainer {tenure : Tenure} {world : World} (held : holds tenure world)
    {descriptor : GroupFd} {group : GroupId} (opened : tenure.group = some (descriptor, group))
    {container : ContainerFd} (attached : tenure.attached = some container) :
    (platform.unsetContainer descriptor).Yields world fun _ after =>
      ∃ attached, holds (tenure.withAttached attached) after
  openContainer {tenure : Tenure} {world : World} (held : holds tenure world)
    (bare : tenure.container = none) :
    platform.openContainer.Yields world fun result after =>
      result.Either (fun container => holds (tenure.withContainer (some (container, false))) after)
        (holds tenure after)
  setIommu {tenure : Tenure} {world : World} (held : holds tenure world)
    {container : ContainerFd} {translating : Bool}
    (own : tenure.container = some (container, translating)) :
    (platform.setIommu container).Yields world fun result after =>
      result.Either (fun _ => holds (tenure.withContainer (some (container, true))) after)
        (holds tenure after)
  closeContainer {tenure : Tenure} {world : World} (held : holds tenure world)
    {container : ContainerFd} {translating : Bool}
    (own : tenure.container = some (container, translating)) :
    (platform.close container).Yields world fun _ after =>
      holds (tenure.withContainer none) after
  closeGroup {tenure : Tenure} {world : World} (held : holds tenure world)
    {descriptor : GroupFd} {group : GroupId} (opened : tenure.group = some (descriptor, group))
    (bare : tenure.container = none) :
    (platform.close descriptor).Yields world fun _ after => holds idle after

end Tenure

theorem Platform.yields_closeQuietly {World Portal : Type} {platform : Platform World Portal}
    {kind : DescriptorKind} {descriptor : Descriptor kind} {world : World} {after : World → Prop}
    (closes : (platform.close descriptor).Yields world fun _ reached => after reached) :
    (platform.closeQuietly descriptor).Yields world fun _ reached => after reached := by
  unfold closeQuietly
  refine Logged.Yields.andThen closes ?_
  intro result reached known
  cases result with
  | ok _ => exact Logged.Yields.pure known
  | error failure => exact Logged.Yields.note known

open Pool.SlotTable (at? put clear vacant?)

/-- What an admission comes to: the group attached to its host, which is its own if it is fresh. -/
def Pool.Admission.tenure (admission : Pool.Admission) : Tenure :=
  { group := some (admission.owned.descriptor, admission.owned.group)
    attached := some admission.host.descriptor
    container :=
      if admission.host.members = [] then some (admission.host.descriptor, true) else none }

def GroupSlot.tenure (owned : GroupSlot) (slot : Nat) (container : ContainerSlot) : Tenure :=
  { group := some (owned.descriptor, owned.group)
    attached := some container.descriptor
    container :=
      if (container.without slot).members = [] then some (container.descriptor, true) else none }

namespace Pool.Admits

variable {pool : Pool} {admission : Pool.Admission}

theorem held (admits : pool.Admits admission) :
    (pool.admitting admission).held? admission.handle = some admission.owned := by
  unfold Pool.held?
  rw [show admission.handle.slot = admission.slot from rfl, admits.at?_groups, if_pos rfl]
  exact if_pos ⟨rfl, rfl⟩

theorem live (admits : pool.Admits admission) :
    at? (pool.admitting admission).containers admission.owned.container =
      some (admission.host.adding admission.slot) := by
  rw [admits.at?_containers, if_pos rfl]

theorem tenure_eq (admits : pool.Admits admission) (sound : pool.Sound) :
    admission.owned.tenure admission.slot (admission.host.adding admission.slot) =
      admission.tenure := by
  unfold GroupSlot.tenure Pool.Admission.tenure
  rw [ContainerSlot.without_adding (sound.host_unlisted admits)]
  rfl

end Pool.Admits

namespace Tenure.Kept

variable {World Portal : Type} {lodging : ContainerFd → Prop} {holds : Tenure → World → Prop}
  {platform : Platform World Portal} {tenure : Tenure} {world : World} {descriptor : GroupFd}
  {group : GroupId}

theorem requireViable (kept : Kept lodging holds platform) (held : holds tenure world)
    (opened : tenure.group = some (descriptor, group)) :
    (Pool.requireViable platform group descriptor).Yields world fun _ after =>
      holds tenure after := by
  unfold Pool.requireViable
  refine Act.Yields.andThen (kept.groupViable held opened) (fun _ _ held => held) ?_
  intro viable after held
  split
  · exact Act.Yields.throw held
  · exact Act.Yields.pure held

theorem join (kept : Kept lodging holds platform) (held : holds tenure world)
    (opened : tenure.group = some (descriptor, group)) (detached : tenure.attached = none)
    (candidates : List (Nat × ContainerSlot))
    (known : ∀ entry ∈ candidates, lodging entry.2.descriptor) :
    (Pool.join platform descriptor candidates).Yields world fun chosen after =>
      match chosen with
      | some entry =>
          entry ∈ candidates ∧ holds (tenure.withAttached (some entry.2.descriptor)) after
      | none => holds tenure after := by
  induction candidates generalizing world with
  | nil => exact Logged.Yields.pure held
  | cons candidate rest ih =>
      obtain ⟨index, container⟩ := candidate
      unfold Pool.join
      refine Logged.Yields.andThen
        (kept.setContainer held opened detached (Or.inl (known _ List.mem_cons_self))) ?_
      intro result after came
      cases result with
      | ok _ => exact Logged.Yields.pure ⟨List.mem_cons_self, came⟩
      | error failure =>
          refine (ih came fun entry among => known entry (List.mem_cons_of_mem _ among)).mono ?_
          intro chosen reached known
          cases chosen with
          | none => exact known
          | some entry => exact ⟨List.mem_cons_of_mem _ known.1, known.2⟩

theorem attachFresh (kept : Kept lodging holds platform) (held : holds tenure world)
    (opened : tenure.group = some (descriptor, group)) (detached : tenure.attached = none)
    {container : ContainerFd} {translating : Bool}
    (own : tenure.container = some (container, translating)) :
    (Pool.attachFresh platform descriptor container).Yields world fun result after =>
      result.Either (fun _ => holds (tenure.withAttached (some container)) after)
        (holds tenure after) := by
  unfold Pool.attachFresh
  refine Act.Yields.andThen (kept.apiVersion held own) (fun _ _ held => held) ?_
  intro version after held
  split
  · exact Act.Yields.throwThen held
  · refine Act.Yields.andThen (kept.hasType1Iommu held own) (fun _ _ held => held) ?_
    intro present after held
    split
    · exact Act.Yields.throwThen held
    · exact kept.setContainer held opened detached (Or.inr ⟨translating, own⟩)

/-- After a failure the fresh container is closed. Whether the group is still said to be attached
then depends on whether it could be detached. -/
theorem openContainerFor (kept : Kept lodging holds platform)
    (held : holds (.opened descriptor group) world) :
    (Pool.openContainer platform group descriptor).Yields world fun result after =>
      result.Either (fun container => holds (.housed descriptor group container true) after)
        (∃ attached, holds ((opened descriptor group).withAttached attached) after) := by
  unfold Pool.openContainer
  refine Act.Yields.andThen (kept.openContainer held rfl) (fun _ _ held => ⟨none, held⟩) ?_
  intro container fresh held
  refine Act.Yields.cleanOrThen (kept.attachFresh held rfl rfl rfl) ?_ ?_
  · intro failure refused held
    refine Platform.yields_closeQuietly ((kept.closeContainer held rfl).mono ?_)
    exact fun _ _ held => ⟨none, held⟩
  intro _ attached held
  refine Act.Yields.cleanOrThen (kept.setIommu held rfl) ?_ ?_
  · intro failure refused held
    have detaches : (Pool.retract platform group descriptor).Yields refused fun _ after =>
        ∃ attached,
          holds ((housed descriptor group container false).withAttached attached) after := by
      unfold Pool.retract
      refine Logged.Yields.andThen (kept.unsetContainer held rfl rfl) ?_
      intro result after known
      cases result with
      | ok _ => exact Logged.Yields.pure known
      | error failure => exact Logged.Yields.note known
    refine Logged.Yields.andThen detaches ?_
    intro _ after ⟨attached, held⟩
    refine Platform.yields_closeQuietly ((kept.closeContainer held rfl).mono ?_)
    exact fun _ _ held => ⟨attached, held⟩
  exact fun _ after held => Act.Yields.pure held

theorem attach (kept : Kept lodging holds platform) {pool : Pool} (sound : pool.Sound)
    (known : ∀ entry ∈ pool.roomy, lodging entry.2.descriptor)
    (held : holds (.opened descriptor group) world) (slot : Nat) :
    (pool.attach platform group descriptor slot).Yields world fun outcome after =>
      (∃ failure, outcome = (.error failure, pool)) ∧
          (∃ attached, holds ((opened descriptor group).withAttached attached) after) ∨
        ∃ index host, pool.Hosts index host ∧
          outcome = (.ok (index, host.descriptor),
            { pool with containers := put pool.containers index (host.adding slot) }) ∧
          holds (Pool.Admission.mk slot ⟨descriptor, group, index⟩ host).tenure after := by
  unfold Pool.attach
  refine Logged.Yields.andThen (kept.requireViable held rfl) ?_
  intro result after held
  cases result with
  | error failure => exact Logged.Yields.pure (Or.inl ⟨⟨failure, rfl⟩, none, held⟩)
  | ok _ =>
  refine Logged.Yields.andThen (kept.join held rfl rfl pool.roomy known) ?_
  intro chosen after known
  cases chosen with
  | some entry =>
      obtain ⟨index, host⟩ := entry
      obtain ⟨roomy, held⟩ := known
      have inhabited := sound.inhabited (Pool.mem_roomy.mp roomy).1
      refine Logged.Yields.pure (Or.inr ⟨index, host, Or.inl roomy, rfl, ?_⟩)
      rw [Pool.Admission.tenure, if_neg inhabited]
      exact held
  | none =>
  dsimp only
  split
  · exact Logged.Yields.pure (Or.inl ⟨⟨_, rfl⟩, none, known⟩)
  next allowed =>
  cases free : vacant? pool.containers pool.limits.containers with
  | none => exact Logged.Yields.pure (Or.inl ⟨⟨_, rfl⟩, none, known⟩)
  | some index =>
  refine Logged.Yields.andThen (kept.openContainerFor known) ?_
  intro result after known
  cases result with
  | error failure => exact Logged.Yields.pure (Or.inl ⟨⟨failure, rfl⟩, known⟩)
  | ok container =>
      refine Logged.Yields.pure (Or.inr ⟨index, ⟨container, []⟩, ?_, rfl, known⟩)
      exact Or.inr ⟨free, rfl, allowed⟩

theorem acquire (kept : Kept lodging holds platform) {pool : Pool} (sound : pool.Sound)
    (lodged : ∀ entry ∈ pool.roomy, lodging entry.2.descriptor) (held : holds idle world)
    (group : GroupId) :
    (pool.acquire platform group).Yields world fun outcome after =>
      outcome.2 = pool ∧ holds idle after ∧
          (∀ handle, outcome.1 = .ok handle → pool.handleOf? group = some handle) ∨
        ∃ admission : Pool.Admission, pool.Admits admission ∧ admission.owned.group = group ∧
          outcome = (.ok admission.handle, pool.admitting admission) ∧
          holds admission.tenure after := by
  unfold Pool.acquire
  cases unknown : pool.handleOf? group with
  | some handle =>
      refine Logged.Yields.pure (Or.inl ⟨rfl, held, ?_⟩)
      rintro _ ⟨⟩
      rfl
  | none =>
  cases free : vacant? pool.groups pool.limits.groups with
  | none => exact Logged.Yields.pure (Or.inl ⟨rfl, held, nofun⟩)
  | some slot =>
  refine Logged.Yields.andThen (kept.openGroup held group) ?_
  intro result after known
  cases result with
  | error failure => exact Logged.Yields.pure (Or.inl ⟨rfl, known, nofun⟩)
  | ok descriptor =>
  refine Logged.Yields.andThen (kept.attach sound lodged known slot) ?_
  rintro _ after (⟨⟨failure, rfl⟩, attached, held⟩ | ⟨index, host, hosts, rfl, held⟩)
  · refine Logged.Yields.afterNote (Logged.Yields.andThen
      (Platform.yields_closeQuietly (kept.closeGroup held rfl rfl)) ?_)
    exact fun _ after held => Logged.Yields.pure (Or.inl ⟨rfl, held, nofun⟩)
  · refine Logged.Yields.pure
      (Or.inr ⟨⟨slot, ⟨descriptor, group, index⟩, host⟩, ?_, rfl, rfl, held⟩)
    exact { slot := free, unknown := unknown, host := hosts }

theorem leave (kept : Kept lodging holds platform) {pool : Pool} {slot : Nat} {owned : GroupSlot}
    {container : ContainerSlot} {attached : Option ContainerFd}
    (live : at? pool.containers owned.container = some container)
    (held : holds ((owned.tenure slot container).withAttached attached) world) :
    (pool.leave platform owned.container slot).Yields world fun outcome after =>
      outcome.2 = { pool with containers := (pool.evict slot owned container).containers } ∧
        holds ((opened owned.descriptor owned.group).withAttached attached) after := by
  unfold Pool.leave Pool.evict
  rw [live]
  by_cases alone : (container.without slot).members = []
  · have empty : (container.members.filter fun member => member != slot).isEmpty = true :=
      List.isEmpty_iff.mpr alone
    have own : (owned.tenure slot container).container = some (container.descriptor, true) :=
      if_pos alone
    dsimp only
    rw [if_pos empty, if_pos alone]
    refine Logged.Yields.andThen (kept.closeContainer held own) ?_
    exact fun _ after held => Logged.Yields.pure ⟨rfl, held⟩
  · have inhabited : ¬ (container.members.filter fun member => member != slot).isEmpty = true :=
      fun empty => alone (List.isEmpty_iff.mp empty)
    rw [GroupSlot.tenure, if_neg alone] at held
    dsimp only
    rw [if_neg inhabited, if_neg alone]
    exact Logged.Yields.pure ⟨rfl, held⟩

theorem release (kept : Kept lodging holds platform) {pool : Pool} {handle : GroupHandle}
    {owned : GroupSlot} {container : ContainerSlot} (known : pool.held? handle = some owned)
    (live : at? pool.containers owned.container = some container)
    (held : holds (owned.tenure handle.slot container) world) :
    (pool.release platform handle).Yields world fun outcome after =>
      outcome.2 = pool.evict handle.slot owned container ∧ holds idle after := by
  unfold Pool.release
  rw [known]
  refine Logged.Yields.andThen (kept.unsetContainer held rfl rfl) ?_
  intro detached after ⟨attached, held⟩
  have live : at? { pool with groups := clear pool.groups handle.slot }.containers
    owned.container = some container := live
  refine Logged.Yields.andThen (kept.leave live held) ?_
  rintro ⟨left, remaining⟩ after ⟨rfl, held⟩
  refine Logged.Yields.andThen (kept.closeGroup held rfl rfl) ?_
  exact fun _ after held => Logged.Yields.pure ⟨rfl, held⟩

end Tenure.Kept

theorem Pool.release_unheld {World Portal : Type} (platform : Platform World Portal) {pool : Pool}
    {handle : GroupHandle} (unheld : pool.held? handle = none) (world : World) :
    (pool.release platform handle).Yields world fun outcome after =>
      outcome = (.ok (), pool) ∧ after = world := by
  unfold Pool.release
  rw [unheld]
  exact Logged.Yields.afterNote (Logged.Yields.pure ⟨rfl, rfl⟩)

end Passthrough
