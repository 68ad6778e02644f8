import Passthrough.Proofs.Stock.PoolStock
import Passthrough.Proofs.Stock.SessionCourse

set_option autoImplicit false

/-! Pools and sessions beside others. An inventory is that of one pool and what belongs to
others. Whatever the pool does, and whatever a session does that it becomes a part of,
what belongs to the others stays as it is. -/

namespace Passthrough

open Pool.SlotTable (at? items)

namespace Pool

variable {pool other left : Pool} {handle : GroupHandle} {owned : GroupSlot} {host : ContainerSlot}

def SameBut (pool other : Pool) (group : GroupId) : Prop :=
  ∀ slot owned, owned.group ≠ group →
    (at? other.groups slot = some owned ↔ at? pool.groups slot = some owned)

/-- The pool with all its groups but one, which it may never have held. -/
def Without (pool : Pool) (group : GroupId) (left : Pool) : Prop :=
  ∀ slot owned, at? left.groups slot = some owned ↔
    at? pool.groups slot = some owned ∧ owned.group ≠ group

theorem SameBut.refl (pool : Pool) (group : GroupId) : pool.SameBut pool group :=
  fun _ _ _ => Iff.rfl

theorem SameBut.without {group : GroupId} (same : pool.SameBut other group)
    (without : other.Without group left) : pool.Without group left := by
  intro slot owned
  rw [without slot owned]
  exact and_congr_left fun apart => same slot owned apart

theorem Admits.sameBut {admission : Admission} (admits : pool.Admits admission) :
    pool.SameBut (pool.admitting admission) admission.owned.group := by
  intro slot owned apart
  rw [admits.at?_groups]
  split
  · next same =>
      subst same
      rw [admits.vacant]
      constructor
      · rintro ⟨⟩
        exact absurd rfl apart
      · exact nofun
  · exact Iff.rfl

theorem Sound.without_evict (sound : pool.Sound) (held : pool.held? handle = some owned)
    (host : ContainerSlot) : pool.Without handle.group (pool.evict handle.slot owned host) := by
  obtain ⟨there, group, -⟩ := at?_of_held? held
  intro slot other
  rw [at?_evict_groups]
  split
  · next same =>
      constructor
      · exact nofun
      · rintro ⟨found, apart⟩
        rw [← same, there] at found
        cases found
        exact absurd group apart
  · next apart =>
      constructor
      · intro found
        exact ⟨found, fun same => apart (sound.unique there found (group.trans same.symm))⟩
      · exact And.left

theorem group_of_handleOf? {group : GroupId} (known : pool.handleOf? group = some handle) :
    handle.group = group := by
  unfold handleOf? at known
  split at known
  · obtain ⟨host, -, rfl⟩ := Option.map_eq_some_iff.mp known
    rfl
  · cases known

/-- A handle as the pool would give it out now. -/
def HasHandle (pool : Pool) (handle : GroupHandle) : Prop :=
  ∃ owned host, pool.Houses handle owned host ∧ handle.container = host.descriptor

theorem hasHandle_of_handleOf? {group : GroupId} (known : pool.handleOf? group = some handle) :
    pool.HasHandle handle := by
  unfold handleOf? at known
  split at known
  · next index owned found =>
      obtain ⟨host, live, rfl⟩ := Option.map_eq_some_iff.mp known
      have listed := SlotTable.mem_items.mp (List.mem_of_find?_eq_some found)
      have same : owned.group = group := by simpa using List.find?_some found
      refine ⟨owned, host, ⟨?_, live⟩, rfl⟩
      unfold held?
      rw [listed]
      exact if_pos ⟨same, rfl⟩
  · cases known

theorem Admits.hasHandle {admission : Admission} (admits : pool.Admits admission) :
    (pool.admitting admission).HasHandle admission.handle :=
  ⟨admission.owned, admission.host.adding admission.slot, ⟨admits.held, admits.live⟩, rfl⟩

theorem lodging_of_roomy {strange : Prop} {others : Inventory} {entry : Nat × ContainerSlot}
    (roomy : entry ∈ pool.roomy) :
    (pool.stock.beside others).Lodging strange entry.2.descriptor := by
  have listed : containerEntry entry ∈ pool.descriptors :=
    List.mem_append_left _
      (List.mem_map_of_mem (SlotTable.mem_items.mpr (mem_roomy.mp roomy).1))
  exact Or.inr ⟨true, List.mem_append_left _ listed⟩

/-- What a pool holds is what one of its groups holds and what is left without it. -/
theorem Sound.stock_beside (sound : pool.Sound) (houses : pool.Houses handle owned host)
    (others : Inventory) :
    (pool.stock.beside others).Perm
      (((pool.evict handle.slot owned host).stock.beside others).withTenure
        (owned.tenure handle.slot host)) := by
  rw [Inventory.withTenure_beside]
  exact (sound.stock_evict (at?_of_held? houses.held).1 houses.live).beside others

end Pool

namespace Inventory.Kept

variable {World : Type} {strange : Prop} {holds : Inventory → World → Prop}
  {platform : Platform World HostAddress} {world : World} {pool : Pool} {others : Inventory}
  (kept : Inventory.Kept strange holds platform)

include kept

theorem acquiresBeside (sound : pool.Sound) (held : holds (pool.stock.beside others) world)
    (group : GroupId) :
    (pool.acquire platform group).Yields world fun outcome after =>
      outcome.2.Sound ∧ holds (outcome.2.stock.beside others) after ∧
        pool.SameBut outcome.2 group ∧
        (∀ handle, outcome.1 = .ok handle →
          outcome.2.HasHandle handle ∧ handle.group = group) ∧
        ∀ failure, outcome.1 = .error failure → outcome.2 = pool := by
  refine (kept.acquires sound (fun _ roomy => Pool.lodging_of_roomy roomy) held group).mono ?_
  rintro ⟨result, left⟩ after (⟨rfl, held, known⟩ | ⟨admission, admits, rfl, taken, held⟩)
  · refine ⟨sound, held, .refl _ group, fun handle got => ?_, fun _ _ => rfl⟩
    exact ⟨Pool.hasHandle_of_handleOf? (known handle got),
      Pool.group_of_handleOf? (known handle got)⟩
  · cases taken
    refine ⟨sound.admitting admits, kept.perm held ?_, admits.sameBut, ?_, nofun⟩
    · rw [Inventory.withTenure_beside]
      exact (sound.stock_admitting admits).symm.beside others
    · rintro _ ⟨⟩
      exact ⟨admits.hasHandle, rfl⟩

theorem releasesBeside (sound : pool.Sound) (held : holds (pool.stock.beside others) world)
    (handle : GroupHandle) :
    (pool.release platform handle).Yields world fun outcome after =>
      outcome.2.Sound ∧ holds (outcome.2.stock.beside others) after := by
  cases known : pool.held? handle with
  | none =>
      refine (Pool.release_unheld platform known world).mono ?_
      rintro _ _ ⟨rfl, rfl⟩
      exact ⟨sound, held⟩
  | some owned =>
      have there := (Pool.at?_of_held? known).1
      obtain ⟨host, live, -⟩ := sound.housed there
      have houses : pool.Houses handle owned host := ⟨known, live⟩
      refine (kept.releases houses (kept.perm held (sound.stock_beside houses others))).mono ?_
      rintro ⟨_, left⟩ after ⟨rfl, held⟩
      exact ⟨sound.evict there live, held⟩

variable {container : ContainerName} {accelerator : DeviceFd} {session : Session HostAddress}

/-- A session takes the pool along. If it does not start, the pool is left with all its groups or
all but the one that the container is in, and the others keep what is theirs. -/
theorem startsBeside (sound : pool.Sound) (held : holds (pool.stock.beside others) world)
    (container : ContainerName) (located : GroupId → Prop)
    (locates : (platform.containerGroup container).Yields world fun result _ =>
      ∀ group, result = .ok group → located group)
    (ready : DeviceFd → Session HostAddress → World → Prop)
    (probes : ∀ (accelerator : DeviceFd) (session : Session HostAddress) (reached : World),
      holds ((session.pool.stock.beside others).withDevices container session accelerator)
        reached →
      (session.probe platform).Yields reached fun result after => result.Either
        (fun _ => ready accelerator session after)
        (holds ((session.pool.stock.beside others).withDevices container session accelerator)
          after)) :
    (Session.start platform pool container).Yields world fun result after =>
      result.Either
        (fun session => session.pool.Sound ∧ session.pool.HasHandle session.group ∧
          pool.SameBut session.pool session.group.group ∧
          ∃ accelerator, session.Fitted accelerator ∧ ready accelerator session after)
        (∃ left : Pool, left.Sound ∧
          (left = pool ∨ ∃ group, located group ∧ pool.Without group left) ∧
          holds (left.stock.beside others) after) := by
  rw [Session.start_eq]
  refine Act.Yields.andThen ((kept.containerGroup held container).and locates)
    (fun _ _ known => ⟨pool, sound, Or.inl rfl, known.1⟩) ?_
  rintro group after ⟨held, known⟩
  have place := known group rfl
  refine Act.Yields.andThenLogged (kept.acquiresBeside sound held group) ?_
  rintro ⟨acquired, taken⟩ after ⟨sound, held, shared, known, failed⟩
  dsimp only at sound held shared known failed ⊢
  cases acquired with
  | error failure => exact fun _ => ⟨taken, sound, Or.inl (failed failure rfl), held⟩
  | ok handle =>
      have given := (known handle rfl).1
      obtain ⟨⟨owned, host, houses, -⟩, rfl⟩ := known handle rfl
      have same := sound.stock_beside houses others
      refine (kept.brings houses (kept.perm held same) container handle.group ready ?_).mono ?_
      · rintro accelerator session reached - rfl rfl held
        have whole := same.withDevices container session accelerator
        refine (probes accelerator session reached (kept.perm held whole.symm)).mono ?_
        exact fun _ _ known => known.imp (fun _ known => known) fun held => kept.perm held whole
      · intro result reached known
        refine known.imp ?_ fun held => ?_
        · rintro session ⟨accelerator, fitted, rfl, rfl, started⟩
          exact ⟨sound, given, shared, accelerator, fitted, started⟩
        · have there := (Pool.at?_of_held? houses.held).1
          exact ⟨_, sound.evict there houses.live,
            Or.inr ⟨_, place, shared.without (sound.without_evict houses.held host)⟩, held⟩

theorem endsBeside (sound : session.pool.Sound) (given : session.pool.HasHandle session.group)
    (fitted : session.Fitted accelerator)
    (held : holds ((session.pool.stock.beside others).withDevices container session accelerator)
      world) :
    ∃ left : Pool, left.Sound ∧ session.pool.Without session.group.group left ∧
      (session.teardown platform).Yields world
        (fun _ after => holds (left.stock.beside others) after) ∧
      (session.drop platform).Yields world
        fun _ after => holds (left.stock.beside others) after := by
  obtain ⟨owned, host, houses, -⟩ := given
  have there := (Pool.at?_of_held? houses.held).1
  have whole := (sound.stock_beside houses others).withDevices container session accelerator
  have held := kept.perm held whole
  exact ⟨_, sound.evict there houses.live, sound.without_evict houses.held host,
    kept.tearsDown fitted houses held, kept.drops fitted houses held⟩

end Inventory.Kept

end Passthrough
