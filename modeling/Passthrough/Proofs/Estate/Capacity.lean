import Passthrough.Proofs.Estate.Run
import Passthrough.Proofs.Pool.Capacity
import Passthrough.Proofs.Simulator.Offers

set_option autoImplicit false

/-! Taking a group from a machine that offers it, after anything that several pools did with
the machine before. Nothing but the limits of the pool decides: the group is taken if the
pool has capacity, and refused for what is short if not. -/

namespace Passthrough

open Files (FileTree)
open Pool.SlotTable (at? put vacant?)

namespace Simulator.Awaits

variable {sim : Simulator} {group : GroupId} {descriptor : GroupFd} {container : ContainerFd}
  {translating : Bool} (files : FileTree)

theorem yields_setContainer (awaits : sim.Awaits group descriptor)
    (opened : sim.descriptors[container.number]? = some (.container translating)) :
    ((platform files).setContainer descriptor container).Yields sim fun result after =>
      result = .ok () ∧ after = sim.withAttachment descriptor container := by
  have call := awaits.setContainer opened
  exact fun _ => ⟨congrArg Prod.fst call, congrArg Prod.snd call⟩

theorem joins (awaits : sim.Awaits group descriptor) {index : Nat} {host : ContainerSlot}
    {rest : List (Nat × ContainerSlot)}
    (opened : sim.descriptors[host.descriptor.number]? = some (.container translating)) :
    (Pool.join (platform files) descriptor ((index, host) :: rest)).Yields sim
      fun chosen after =>
        chosen = some (index, host) ∧ after = sim.withAttachment descriptor host.descriptor := by
  unfold Pool.join
  refine Logged.Yields.andThen (awaits.yields_setContainer files opened) ?_
  rintro _ _ ⟨rfl, rfl⟩
  exact Logged.Yields.pure ⟨rfl, rfl⟩

theorem attachesFresh (awaits : sim.Awaits group descriptor)
    (opened : sim.descriptors[container.number]? = some (.container translating)) :
    (Pool.attachFresh (platform files) descriptor container).Yields sim fun result after =>
      result = .ok () ∧ after = sim.withAttachment descriptor container := by
  have version : ((platform files).apiVersion container).Yields sim fun result after =>
      result = .ok Pool.supportedApi ∧ after = sim := by
    have call : sim.reportedApiVersion container = .ok Pool.supportedApi := by
      rw [reportedApiVersion, Simulator.object, opened, awaits.apiVersion]
      rfl
    exact fun _ => ⟨call, rfl⟩
  have present : ((platform files).hasType1Iommu container).Yields sim fun result after =>
      result = .ok true ∧ after = sim := by
    have call : sim.hasType1Iommu container = .ok true := by
      rw [hasType1Iommu, Simulator.object, opened]
      rfl
    exact fun _ => ⟨call, rfl⟩
  unfold Pool.attachFresh
  refine version.doneThen ?_
  rintro _ rfl
  rw [if_neg (not_not_intro rfl)]
  refine present.doneThen ?_
  rintro _ rfl
  exact awaits.yields_setContainer files opened

theorem opensContainer (awaits : sim.Awaits group descriptor) :
    (Pool.openContainer (platform files) group descriptor).Yields sim fun result after =>
      ∃ container, result = .ok container ∧ after.history = sim.history ++ [.openContainer] ∧
        after.attachments[descriptor.number]? = some container.number := by
  have fresh : (platform files).openContainer.Yields sim fun result after =>
      result = .ok ⟨sim.lastDescriptor + 1⟩ ∧ after = sim.openContainer.2 :=
    fun _ => ⟨rfl, rfl⟩
  have ready := awaits.openContainer
  have opened : sim.openContainer.2.descriptors[sim.lastDescriptor + 1]? =
    some (.container false) := Std.ExtTreeMap.getElem?_insert_self
  have selects (container : ContainerFd)
      (opened : sim.openContainer.2.descriptors[container.number]? = some (.container false)) :
      ((platform files).setIommu container).Yields
        (sim.openContainer.2.withAttachment descriptor container) fun result after =>
          result = .ok () ∧ after.history = sim.history ++ [.openContainer] ∧
            after.attachments[descriptor.number]? = some container.number := by
    have call := ready.setIommu opened
    intro _
    change (Simulator.setIommu _ _).1 = _ ∧ (Simulator.setIommu _ _).2.history = _ ∧
      (Simulator.setIommu _ _).2.attachments[_]? = _
    rw [call]
    exact ⟨rfl, sim.history_note .openContainer, attachments_withAttachment⟩
  unfold Pool.openContainer
  refine fresh.doneThen ?_
  rintro _ rfl
  refine (ready.attachesFresh files opened).needsNoCleaning.doneThen ?_
  rintro _ rfl
  refine (selects ⟨sim.lastDescriptor + 1⟩ opened).needsNoCleaning.doneThen ?_
  rintro _ ⟨history, attached⟩
  exact Act.Yields.pure ⟨_, rfl, history, attached⟩

theorem attaches (awaits : sim.Awaits group descriptor) {pool : Pool} (sound : pool.Sound)
    (live : ∀ index host, at? pool.containers index = some host →
      sim.descriptors[host.descriptor.number]? = some (.container true))
    (room : pool.groupCount < pool.limits.groups) (slot : Nat) :
    (pool.attach (platform files) group descriptor slot).Yields sim fun outcome after =>
      ¬ pool.HasCapacity ∧ outcome = (.error pool.shortage, pool) ∨
        ∃ index host news, pool.Berth index host news ∧
          outcome = (.ok (index, host.descriptor),
            { pool with containers := put pool.containers index (host.adding slot) }) ∧
          after.history = sim.history ++ news ∧
          after.attachments[descriptor.number]? = some host.descriptor.number := by
  have viable : (Pool.requireViable (platform files) group descriptor).Yields sim
      fun result after => result = .ok () ∧ after = sim := by
    have asked : ((platform files).groupViable descriptor).Yields sim fun result after =>
        result = .ok true ∧ after = sim := fun _ => ⟨awaits.groupViable, rfl⟩
    unfold Pool.requireViable
    refine asked.doneThen ?_
    rintro _ rfl
    exact Act.Yields.pure ⟨rfl, rfl⟩
  unfold Pool.attach
  refine Logged.Yields.andThen viable ?_
  rintro _ reached ⟨rfl, same⟩
  rw [same]
  cases roomy : pool.roomy with
  | cons candidate rest =>
      obtain ⟨index, host⟩ := candidate
      have first := Pool.firstRoom_of_roomy roomy
      refine Logged.Yields.andThen (awaits.joins files (live index host first.room.1)) ?_
      rintro _ _ ⟨rfl, rfl⟩
      refine Logged.Yields.pure (Or.inr ⟨index, host, [], .joins first, rfl, ?_, ?_⟩)
      · exact (List.append_nil _).symm
      · exact attachments_withAttachment
  | nil =>
      have crowded := Pool.crowded_of_roomy roomy
      have none : (Pool.join (platform files) descriptor []).Yields sim fun chosen after =>
          chosen = none ∧ after = sim := Logged.Yields.pure ⟨rfl, rfl⟩
      refine Logged.Yields.andThen none ?_
      rintro _ reached ⟨rfl, same⟩
      rw [same]
      by_cases unshared : pool.limits.groupsPerContainer = 0
      · obtain ⟨full, short⟩ := Pool.short_of_sharing room unshared
        dsimp only
        rw [if_pos unshared, short]
        exact Logged.Yields.pure (Or.inl ⟨full, rfl⟩)
      dsimp only
      rw [if_neg unshared]
      cases vacant : vacant? pool.containers pool.limits.containers with
      | none =>
          obtain ⟨full, short⟩ := sound.short_of_containers room unshared crowded vacant
          rw [short]
          exact Logged.Yields.pure (Or.inl ⟨full, rfl⟩)
      | some index =>
          refine Logged.Yields.andThen (awaits.opensContainer files) ?_
          rintro _ _ ⟨container, rfl, history, attached⟩
          refine Logged.Yields.pure (Or.inr ⟨index, ⟨container, []⟩, [.openContainer], ?_⟩)
          exact ⟨.opens crowded vacant unshared, rfl, history, attached⟩

end Simulator.Awaits

/-- A group that is offered is admitted to a berth, or a limit is short. -/
theorem Simulator.Offers.acquired {sim : Simulator} {group : GroupId} (offers : sim.Offers group)
    (orderly : sim.Orderly) (files : FileTree) {pool : Pool} (sound : pool.Sound)
    (live : ∀ index host, at? pool.containers index = some host →
      sim.descriptors[host.descriptor.number]? = some (.container true))
    (unknown : pool.handleOf? group = none) :
    (pool.acquire (platform files) group).Yields sim fun outcome after =>
      ¬ pool.HasCapacity ∧ outcome = (.error pool.shortage, pool) ∨
        ∃ (admission : Pool.Admission) (news : List Event), pool.Admits admission ∧
          admission.owned.group = group ∧
          pool.Berth admission.owned.container admission.host news ∧
          outcome = (.ok admission.handle, pool.admitting admission) ∧
          after.history = sim.history ++ .openGroup group :: news ∧
          after.attachments[admission.owned.descriptor.number]? =
            some admission.host.descriptor.number := by
  have opens : ((platform files).openGroup group).Yields sim fun result after =>
      result = .ok ⟨sim.lastDescriptor + 1⟩ ∧ after = sim.withGroup group := by
    have call := offers.openGroup
    exact fun _ => ⟨congrArg Prod.fst call, congrArg Prod.snd call⟩
  unfold Pool.acquire
  rw [unknown]
  cases vacant : vacant? pool.groups pool.limits.groups with
  | none =>
      obtain ⟨full, short⟩ := sound.short_of_groups vacant
      rw [short]
      exact Logged.Yields.pure (Or.inl ⟨full, rfl⟩)
  | some slot =>
  have room := sound.vacant_groups_iff.mp (by rw [vacant]; rfl)
  have awaits := offers.awaits orderly
  have still (index : Nat) (host : ContainerSlot) (found : at? pool.containers index = some host) :
      (sim.withGroup group).descriptors[host.descriptor.number]? = some (.container true) :=
    container_withGroup orderly (live index host found)
  refine Logged.Yields.andThen opens ?_
  rintro _ _ ⟨rfl, rfl⟩
  refine Logged.Yields.andThen (awaits.attaches files sound still room slot) ?_
  rintro _ after (⟨full, rfl⟩ | ⟨index, host, news, berth, rfl, history, attached⟩)
  · refine Logged.Yields.afterNote ?_
    intro log
    exact Or.inl ⟨full, rfl⟩
  · let admission : Pool.Admission := ⟨slot, ⟨⟨sim.lastDescriptor + 1⟩, group, index⟩, host⟩
    have admits : pool.Admits admission := ⟨vacant, unknown, berth.hosts⟩
    refine Logged.Yields.pure (Or.inr ⟨admission, news, admits, rfl, berth, rfl, ?_, attached⟩)
    rw [history, withGroup]
    exact (congrArg (· ++ news) (sim.history_note (.openGroup group))).trans
      (List.append_assoc _ _ _)

namespace Estate

namespace Accounted

variable {base : Simulator} {estate : Estate} {pool : Pool}

theorem limits_step (accounted : Accounted base estate) (action : Action) :
    (estate.step action).pools.map Pool.limits = estate.pools.map Pool.limits := by
  have applied {α : Type} (index : Nat) (operation : Pool → Logged Simulator (Result α × Pool))
      (keeps : ∀ pool ∈ estate.pools,
        (operation pool ⟨estate.machine, []⟩).1.2.limits = pool.limits) :
      (estate.apply index operation).pools.map Pool.limits = estate.pools.map Pool.limits := by
    unfold Estate.apply
    split
    · rfl
    · next pool found =>
        dsimp only
        rw [List.map_set, keeps pool (List.mem_of_getElem? found), ← List.map_set]
        obtain ⟨bound, rfl⟩ := List.getElem?_eq_some_iff.mp found
        rw [List.set_getElem_self bound]
  cases action with
  | acquire index group =>
      exact applied index _ fun pool member =>
        ((accounted.sound pool member).acquire estate.platform group _).2
  | release index handle =>
      exact applied index _ fun pool member =>
        ((accounted.sound pool member).release estate.platform handle _).2
  | inject fault => rfl
  | clearFaults => rfl
  | setViable group viable => rfl
  | setApiVersion version => rfl

theorem limits_run (accounted : Accounted base estate) (actions : List Action) :
    (estate.run actions).pools.map Pool.limits = estate.pools.map Pool.limits := by
  induction actions generalizing estate with
  | nil => rfl
  | cons action rest ih => exact (ih (accounted.step action)).trans (accounted.limits_step action)

theorem unknown_of_unopened (accounted : Accounted base estate) (member : pool ∈ estate.pools)
    {group : GroupId} (unopened : estate.machine.isOpenGroup group = false) :
    pool.handleOf? group = none := by
  refine (accounted.sound pool member).handleOf?_eq_none_iff.mpr ?_
  rintro slot owned found rfl
  exact Simulator.not_open_of_isOpenGroup (by simp [unopened]) _
    (accounted.opened_group member found)

end Accounted

/-- Whatever any number of pools did before on a machine: a pool stays within its limits, and takes
a group that the machine offers exactly if it has capacity. The group goes to the first
container with room, and to a new one only where none has room. Otherwise the pool says what
is short, without a single call where that is its own slots. -/
theorem acquire_decided_by_capacity (machine : Simulator) (files : FileTree)
    (limits : List PoolLimits) (reachable : machine.Reachable) (actions : List Action)
    (index : Nat) (pool : Pool) (group : GroupId) (log : List Diagnostic) :
    let estate := (opened machine files limits).run actions
    let ended := pool.acquire estate.platform group ⟨estate.machine, log⟩
    estate.pools[index]? = some pool → estate.machine.Offers group →
      limits[index]? = some pool.limits ∧
      pool.groupCount ≤ pool.limits.groups ∧
      pool.containerCount ≤ pool.limits.containers ∧
      ((∃ handle, ended.1.1 = .ok handle) ↔ pool.HasCapacity) ∧
      (∀ handle, ended.1.1 = .ok handle →
        ended.2.world.attachments[handle.descriptor.number]? = some handle.container.number ∧
        ∃ news, ended.2.world.history = estate.machine.history ++ news ∧
          pool.Lodges group handle ended.1.2 news) ∧
      (∀ failure, ended.1.1 = .error failure → failure = pool.shortage ∧ ended.1.2 = pool) ∧
      (pool.groupCount = pool.limits.groups →
        ∀ {World Portal : Type} (platform : Platform World Portal) (start : Traced World),
          pool.acquire platform group start =
            ((.error (.capacityExceeded "group" pool.limits.groups), pool), start)) := by
  intro estate ended found offers
  have initial := Accounted.opened reachable.orderly files limits
  have accounted : Accounted machine estate := initial.run actions
  have member : pool ∈ estate.pools := List.mem_of_getElem? found
  have sound := accounted.sound pool member
  have unknown := accounted.unknown_of_unopened member offers.unopened
  have configured : limits[index]? = some pool.limits := by
    have same : estate.pools.map Pool.limits = limits := by
      refine (initial.limits_run actions).trans ?_
      change (limits.map Pool.empty).map Pool.limits = limits
      rw [List.map_map]
      exact List.map_id _
    rw [← same, List.getElem?_map, found]
    rfl
  have course : _ ∨ _ := offers.acquired accounted.stocked.orderly estate.files sound
    (fun _ _ live => accounted.opened_container member live) unknown log
  have untouched (full : pool.groupCount = pool.limits.groups) {World Portal : Type}
      (platform : Platform World Portal) (start : Traced World) :
      pool.acquire platform group start =
        ((.error (.capacityExceeded "group" pool.limits.groups), pool), start) := by
    unfold Pool.acquire
    rw [unknown, sound.groups_full_iff.mpr full]
    rfl
  refine ⟨configured, sound.coherent.groupCount, sound.coherent.containerCount, ?_⟩
  rcases course with ⟨full, outcome⟩ | ⟨admission, news, admits, rfl, berth, outcome, history,
    attached⟩
  · have failed : ended.1 = (.error pool.shortage, pool) := outcome
    rw [failed]
    refine ⟨⟨nofun, fun capacity => absurd capacity full⟩, nofun, ?_, untouched⟩
    rintro _ ⟨⟩
    exact ⟨rfl, rfl⟩
  · have taken : ended.1 = (.ok admission.handle, pool.admitting admission) := outcome
    have slot : (vacant? pool.groups pool.limits.groups).isSome = true := by
      rw [admits.slot]
      rfl
    have capacity := berth.hasCapacity sound (sound.vacant_groups_iff.mp slot)
    rw [taken]
    refine ⟨⟨fun _ => capacity, fun _ => ⟨_, rfl⟩⟩, ?_, nofun, untouched⟩
    rintro _ ⟨⟩
    exact ⟨attached, _, history, admits.lodges berth⟩

/-- A container with room is joined although a slot before it is free, and the group takes the
lowest slot that was left. -/
theorem acquire_decided_by_capacity_of_fragmented_pool :
    let limits : PoolLimits := { groups := 3, containers := 2, groupsPerContainer := 2 }
    let machine := (((Tool.demonstration .standard).withContainer "dprc.3" ⟨1⟩ []).withContainer
      "dprc.4" ⟨2⟩ []).withContainer "dprc.5" ⟨3⟩ []
    let first : GroupHandle := { slot := 0, group := ⟨0⟩, descriptor := ⟨3⟩, container := ⟨4⟩ }
    let second : GroupHandle := { slot := 1, group := ⟨1⟩, descriptor := ⟨5⟩, container := ⟨4⟩ }
    let actions : List Action :=
      [.acquire 0 ⟨0⟩, .acquire 0 ⟨1⟩, .acquire 0 ⟨2⟩, .release 0 second, .release 0 first]
    let estate := (opened machine ⟨[], []⟩ [limits]).run actions
    let host : ContainerSlot := { descriptor := ⟨7⟩, members := [2] }
    let pool : Pool :=
      { limits := limits
        groups := [none, none, some { descriptor := ⟨6⟩, group := ⟨2⟩, container := 1 }]
        containers := [none, some host] }
    estate.pools = [pool] ∧ estate.machine.Offers ⟨3⟩ ∧ pool.HasCapacity ∧
      (pool.acquire estate.platform ⟨3⟩ ⟨estate.machine, []⟩).2.world.history =
        estate.machine.history ++ [.openGroup ⟨3⟩] ∧
      at? (pool.acquire estate.platform ⟨3⟩ ⟨estate.machine, []⟩).1.2.containers 1 =
        some (host.adding 0) := by
  intro limits machine first second actions estate host pool
  have reachable : machine.Reachable :=
    .step (.step (.step (Simulator.reachable_demonstration .standard) (.withContainer _ _ _))
      (.withContainer _ _ _)) (.withContainer _ _ _)
  have pools : estate.pools = [pool] := by decide +kernel
  have offers : estate.machine.Offers ⟨3⟩ :=
    { faultless := by decide +kernel
      apiVersion := by decide +kernel
      viable := ⟨{ container := "dprc.5", devices := [], viable := true }, by decide +kernel, rfl⟩
      unopened := by decide +kernel }
  obtain ⟨-, -, -, succeeds, lodged, -, -⟩ := acquire_decided_by_capacity machine ⟨[], []⟩ [limits]
    reachable actions 0 pool ⟨3⟩ [] (by rw [pools]; rfl) offers
  let handle : GroupHandle := { slot := 0, group := ⟨3⟩, descriptor := ⟨8⟩, container := ⟨7⟩ }
  obtain ⟨-, news, history, lodges⟩ := lodged handle (by decide +kernel)
  have roomy : pool.roomy = [(1, host)] := by decide +kernel
  have room := Pool.firstRoom_of_roomy roomy
  obtain ⟨opened, -, -, joined⟩ := lodges.joined 1 host room
  rw [opened] at history
  refine ⟨pools, offers, succeeds.mp ⟨handle, by decide +kernel⟩, ?_, ?_⟩
  · dsimp only [estate]
    exact history
  · dsimp only [estate]
    exact joined

end Estate

end Passthrough
