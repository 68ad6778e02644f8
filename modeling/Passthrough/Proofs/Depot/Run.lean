import Mathlib.Data.List.Flatten
import Mathlib.Data.List.Perm.Basic
import Passthrough.Proofs.Depot.Basic
import Passthrough.Tool.Report

set_option autoImplicit false

/-! What a depot can rely on. Each step keeps the tables of the machine in line with the bays, and
so does any run of them: each container shows its buffers and at most one interrupt page,
nothing is left over, and no removal is ever refused. -/

namespace Passthrough

open Files (FileTree)
open Simulator (registrationOrder firstAddress Step)

namespace Depot

def besides (depot : Depot) (index : Nat) (buffers : List ((Int × Nat) × Nat)) :
    List ((Int × Nat) × Nat) :=
  buffers ++ (depot.bays.eraseIdx index).flatMap Bay.registrations

def around (depot : Depot) (index : Nat) : List (Nat × Nat) :=
  (depot.bays.eraseIdx index).flatMap Bay.pageMappings ++ depot.memory

structure Sound (base : Std.ExtTreeMap (Int × Nat) Nat registrationOrder) (depot : Depot) :
    Prop where
  own : (depot.bays.map Bay.container).Nodup
  settled : ∀ bay ∈ depot.bays, bay.space.Settled depot.machine base
  foreign : ∀ bay ∈ depot.bays, ∀ address : Nat, base[(bay.container, address)]? = none
  elevated : ∀ bay ∈ depot.bays, ∀ buffer ∈ bay.buffers, firstAddress ≤ buffer.address.value
  carries : Simulator.Carries depot.machine base (depot.bays.flatMap Bay.registrations)
    (depot.pages ++ depot.memory) depot.machine

namespace Sound

variable {base : Std.ExtTreeMap (Int × Nat) Nat registrationOrder} {depot : Depot}
  {index : Nat} {bay : Bay}

theorem agreement (sound : Sound base depot) : depot.Agreement where
  registrations bay among address length := by
    have registrations := sound.carries.registrations
    constructor
    · intro found
      rcases registrations.only id _ _ found with listed | based
      · obtain ⟨other, member, entry⟩ := List.mem_flatMap.mp listed
        have same : other = bay :=
          List.inj_on_of_nodup_map sound.own member among
            (Bay.container_of_mem_registrations entry).symm
        subst same
        rcases List.mem_append.mp entry with page | buffer
        · obtain ⟨_, present, named⟩ := List.mem_map.mp page
          cases named
          refine Or.inr ⟨?_, rfl, rfl⟩
          exact Option.isSome_iff_exists.mpr ⟨_, Option.mem_toList.mp present⟩
        · obtain ⟨held, among, named⟩ := List.mem_map.mp buffer
          cases named
          exact Or.inl ⟨held, among, rfl, rfl⟩
      · rw [sound.foreign bay among address] at based
        cases based
    · intro known
      refine registrations.has ((bay.container, address), length)
        (List.mem_flatMap.mpr ⟨bay, among, ?_⟩)
      rcases known with ⟨buffer, held, rfl, rfl⟩ | ⟨present, rfl, rfl⟩
      · exact List.mem_append_right _ (List.mem_map.mpr ⟨buffer, held, rfl⟩)
      · obtain ⟨page, present⟩ := Option.isSome_iff_exists.mp present
        exact List.mem_append_left _
          (List.mem_map.mpr ⟨page, Option.mem_toList.mpr present, rfl⟩)
  once bay among := by
    have part := (List.singleton_sublist.mpr among).flatMap Bay.registrations
    rw [List.flatMap_singleton] at part
    exact sound.carries.registrations.distinct.sublist (part.map _)
  mappings address length := by
    rw [sound.carries.mappings.getElem?_iff, List.mem_append, or_comm]
    refine or_congr_right ?_
    unfold pages
    rw [List.mem_flatMap]
    refine exists_congr fun bay => and_congr_right fun _ => ?_
    rw [Bay.pageMappings, DmaSpace.pageMappings, List.mem_map]
    refine exists_congr fun page => ?_
    rw [Option.mem_toList, Prod.mk.injEq]
    exact and_congr_right fun _ => and_congr_right fun _ => eq_comm
  apart := sound.carries.mappings.distinct

theorem select (sound : Sound base depot) (found : depot.bays[index]? = some bay) :
    Simulator.Carries depot.machine base
      (bay.space.pageRegistrations ++ depot.besides index bay.bufferRegistrations)
      (bay.space.pageMappings ++ depot.around index) depot.machine := by
  obtain ⟨bound, rfl⟩ := List.getElem?_eq_some_iff.mp found
  have split := (List.getElem_cons_eraseIdx_perm bound).symm
  refine sound.carries.perm ?_ ?_
  · refine (split.flatMap_right _).trans ?_
    rw [List.flatMap_cons, Bay.registrations, List.append_assoc]
    exact .refl _
  · refine ((split.flatMap_right _).append_right _).trans ?_
    rw [List.flatMap_cons, List.append_assoc]
    exact .refl _

theorem apart (sound : Sound base depot) (found : depot.bays[index]? = some bay) :
    ∀ entry ∈ depot.besides index bay.bufferRegistrations,
      entry.1 ≠ (bay.container, Staging.interruptAddress) := by
  intro entry member same
  rcases List.mem_append.mp member with buffer | other
  · obtain ⟨held, listed, rfl⟩ := List.mem_map.mp buffer
    exact Simulator.firstAddress_ne (sound.elevated bay (List.mem_of_getElem? found) held listed)
      (Prod.mk.inj same).2
  · obtain ⟨bound, rfl⟩ := List.getElem?_eq_some_iff.mp found
    obtain ⟨neighbour, among, entered⟩ := List.mem_flatMap.mp other
    have own := (((List.getElem_cons_eraseIdx_perm bound).symm.map Bay.container).nodup_iff).mp
      sound.own
    refine (List.nodup_cons.mp own).1 (List.mem_map.mpr ⟨neighbour, among, ?_⟩)
    rw [← Bay.container_of_mem_registrations entered, same]

theorem replace (sound : Sound base depot) (found : depot.bays[index]? = some bay) (left : Bay)
    {after : Simulator} (same : ∃ page, left.space = { bay.space with interruptPage := page })
    (elevated : ∀ buffer ∈ left.buffers, firstAddress ≤ buffer.address.value)
    (carries : Simulator.Carries depot.machine base
      (left.space.pageRegistrations ++ depot.besides index left.bufferRegistrations)
      (left.space.pageMappings ++ depot.around index) after) :
    Sound base (depot.put index after left) := by
  obtain ⟨bound, rfl⟩ := List.getElem?_eq_some_iff.mp found
  obtain ⟨page, same⟩ := same
  -- Their order is of no account, so the bay is put before all others, as it was and as it is.
  have before := (List.getElem_cons_eraseIdx_perm bound).symm
  have now := List.set_perm_cons_eraseIdx bound left
  have container : left.container = depot.bays[index].container := by
    rw [Bay.container, same]
    rfl
  constructor
  · refine ((now.map Bay.container).nodup_iff).mpr ?_
    rw [List.map_cons, container, ← List.map_cons]
    exact (before.map Bay.container).nodup_iff.mp sound.own
  · intro other member
    rcases List.mem_or_eq_of_mem_set member with old | rfl
    · exact (sound.settled other old).congr carries.descriptors
    · have known := (sound.settled _ (List.getElem_mem bound)).congr carries.descriptors
      rw [same]
      exact ⟨known.container, known.source, known.based⟩
  · intro other member
    rcases List.mem_or_eq_of_mem_set member with old | rfl
    · exact sound.foreign other old
    · rw [container]
      exact sound.foreign _ (List.getElem_mem bound)
  · intro other member
    rcases List.mem_or_eq_of_mem_set member with old | rfl
    · exact sound.elevated other old
    · exact elevated
  · refine Simulator.Carries.perm { carries with descriptors := rfl, faults := rfl } ?_ ?_
    · refine List.Perm.trans ?_ (now.flatMap_right _).symm
      rw [List.flatMap_cons, Bay.registrations, List.append_assoc]
      exact .refl _
    · refine List.Perm.trans ?_ ((now.flatMap_right _).append_right _).symm
      rw [List.flatMap_cons, List.append_assoc]
      exact .refl _

variable (files : FileTree)

private theorem watched (sound : Sound base depot) (found : depot.bays[index]? = some bay) :
    Watch.Carries depot.machine base
      (bay.space.pageRegistrations ++ depot.besides index bay.bufferRegistrations)
      (bay.space.pageMappings ++ depot.around index) { machine := depot.machine, seen := [] } :=
  ⟨sound.select found, fun _ member => absurd member List.not_mem_nil⟩

private theorem watched_buffer (sound : Sound base depot) (found : depot.bays[index]? = some bay)
    {place : Nat} {buffer : Registration} (held : bay.buffers[place]? = some buffer) :
    let left : Bay := { bay with buffers := bay.buffers.eraseIdx place }
    Watch.Carries depot.machine base
      (bay.space.pageRegistrations ++
        ((bay.space.container.number, buffer.address.value), buffer.length) ::
          depot.besides index left.bufferRegistrations)
      (bay.space.pageMappings ++ depot.around index) { machine := depot.machine, seen := [] } := by
  obtain ⟨bound, rfl⟩ := List.getElem?_eq_some_iff.mp held
  have split := (List.getElem_cons_eraseIdx_perm bound).symm
  exact (sound.watched found).perm (((split.map _).append_right _).append_left _) (.refl _)

theorem register (sound : Sound base depot) (index : Nat) (address : HostAddress) (length : Nat) :
    Sound base (depot.register files index address length) := by
  unfold Depot.register
  cases found : depot.bays[index]? with
  | none => exact sound
  | some bay =>
      have among := List.mem_of_getElem? found
      have mirrors := (Simulator.platform files).watched_reflects.register bay.space address length
      have yields := DmaSpace.register_carries files (sound.settled bay among)
        (sound.watched found) (sound.apart found) address length
      obtain ⟨seen, same, known⟩ := mirrors.yields yields []
      dsimp only
      generalize bay.space.register (Simulator.platform files) address length
        ⟨depot.machine, []⟩ = ended at same known ⊢
      obtain ⟨⟨result, space⟩, reached⟩ := ended
      cases result with
      | ok registration =>
          obtain ⟨rfl, above, carries, -⟩ := known
          let left : Bay := ⟨space, ⟨address, length⟩ :: bay.buffers⟩
          have entries : left.bufferRegistrations =
              ((bay.space.container.number, address.value), length) :: bay.bufferRegistrations := by
            obtain ⟨page, rfl⟩ := same
            rfl
          have above : ∀ buffer ∈ left.buffers, firstAddress ≤ buffer.address.value :=
            List.forall_mem_cons.mpr ⟨above, sound.elevated bay among⟩
          refine sound.replace found left same above ?_
          rw [entries]
          exact carries.machine
      | error failure =>
          obtain ⟨rfl, carries, -⟩ := known
          exact sound.replace found ⟨bay.space, bay.buffers⟩ same (sound.elevated bay among)
            carries.machine

theorem unregister (sound : Sound base depot) (index place : Nat) :
    Sound base (depot.unregister files index place) := by
  unfold Depot.unregister
  cases found : depot.bays[index]? with
  | none => exact sound
  | some bay =>
      dsimp only
      cases held : bay.buffers[place]? with
      | none => exact sound
      | some buffer =>
          have mirrors := (Simulator.platform files).watched_reflects.unregister bay.space buffer
          obtain ⟨seen, left, kept⟩ := mirrors.yields
            (DmaSpace.unregister_carries files (sound.watched_buffer found held)) []
          dsimp only
          rw [left]
          refine sound.replace found _ ⟨none, rfl⟩ (fun other member => ?_) kept.machine
          refine sound.elevated bay (List.mem_of_getElem? found) other ?_
          exact List.mem_of_mem_eraseIdx member

theorem release (sound : Sound base depot) (index : Nat) :
    Sound base (depot.release files index) := by
  unfold Depot.release
  cases found : depot.bays[index]? with
  | none => exact sound
  | some bay =>
      have mirrors := (Simulator.platform files).watched_reflects.releaseInterruptPage bay.space
      obtain ⟨seen, left, kept⟩ := mirrors.yields
        (DmaSpace.releaseInterruptPage_carries files (sound.watched found)) []
      dsimp only
      rw [left]
      exact sound.replace found _ ⟨none, rfl⟩ (sound.elevated bay (List.mem_of_getElem? found))
        kept.machine

theorem control (sound : Sound base depot) {after : Simulator} (next : Step depot.machine after)
    (descriptors : after.descriptors = depot.machine.descriptors)
    (registrations : after.registrations = depot.machine.registrations)
    (mappings : after.mappings = depot.machine.mappings) :
    Sound base { depot with machine := after } where
  own := sound.own
  settled bay among := (sound.settled bay among).congr descriptors
  foreign := sound.foreign
  elevated := sound.elevated
  carries := {
    fresh := sound.carries.fresh.step next
    elevated := sound.carries.elevated.place sound.carries.fresh next.change.placement
    descriptors := rfl
    faults := rfl
    registrations := by
      rw [registrations]
      exact sound.carries.registrations
    mappings := by
      rw [mappings]
      exact sound.carries.mappings }

theorem allocate (sound : Sound base depot) (length : Nat) :
    Sound base (depot.allocate length) where
  own := sound.own
  settled bay among := (sound.settled bay among).congr rfl
  foreign := sound.foreign
  elevated := sound.elevated
  carries := {
    fresh := sound.carries.fresh.allocate length
    elevated := sound.carries.elevated.place sound.carries.fresh (.allocates length rfl rfl)
    descriptors := rfl
    faults := rfl
    registrations := sound.carries.registrations
    mappings := by
      have vacant := sound.carries.fresh.mappings depot.machine.nextAddress (Nat.le_refl _)
      exact (sound.carries.mappings.insert length vacant).perm List.perm_middle.symm }

theorem join (sound : Sound base depot) {container : ContainerFd} {source : DeviceFd}
    (own : ∀ bay ∈ depot.bays, bay.container ≠ container.number)
    (translating : depot.machine.descriptors[container.number]? = some (.container true))
    (device : ∃ name, depot.machine.descriptors[source.number]? = some (.device name))
    (bare : ∀ address : Nat, depot.machine.registrations[(container.number, address)]? = none) :
    Sound base (depot.join container source) := by
  have based (address : Nat) : base[(container.number, address)]? = none := by
    cases known : base[(container.number, address)]? with
    | none => rfl
    | some length =>
        have found := sound.carries.registrations.keeps _ _ known
        rw [bare] at found
        cases found
  constructor
  · refine List.nodup_cons.mpr ⟨fun member => ?_, sound.own⟩
    obtain ⟨bay, among, same⟩ := List.mem_map.mp member
    exact own bay among same
  · exact List.forall_mem_cons.mpr ⟨⟨translating, device, based _⟩, sound.settled⟩
  · exact List.forall_mem_cons.mpr ⟨based, sound.foreign⟩
  · exact List.forall_mem_cons.mpr ⟨nofun, sound.elevated⟩
  · exact sound.carries

/-- What is registered for containers that are not the bays' own. -/
def elsewhere (depot : Depot) (machine : Simulator) :
    Std.ExtTreeMap (Int × Nat) Nat registrationOrder :=
  machine.registrations.filter fun key _ => decide (key.1 ∉ depot.bays.map Bay.container)

theorem getElem?_elsewhere (depot : Depot) (machine : Simulator) (key : Int × Nat) :
    (elsewhere depot machine)[key]? =
      if key.1 ∈ depot.bays.map Bay.container then none else machine.registrations[key]? := by
  rw [elsewhere, Std.ExtTreeMap.getElem?_filter']
  split
  · next own => cases machine.registrations[key]? <;> simp [own]
  · next foreign => cases machine.registrations[key]? <;> simp [foreign]

private theorem elsewhere_comprises (sound : Sound base depot) {after : Simulator}
    (untouched : depot.Untouched after) :
    Comprises False (elsewhere depot after) (depot.bays.flatMap Bay.registrations)
      after.registrations := by
  have registrations := sound.carries.registrations
  have owned {entry : (Int × Nat) × Nat} (member : entry ∈ depot.bays.flatMap Bay.registrations) :
      ∃ bay ∈ depot.bays, entry.1.1 = bay.container := by
    obtain ⟨bay, among, entered⟩ := List.mem_flatMap.mp member
    exact ⟨bay, among, Bay.container_of_mem_registrations entered⟩
  constructor
  · exact registrations.distinct
  · intro entry member
    obtain ⟨bay, among, same⟩ := owned member
    rw [getElem?_elsewhere, if_pos (List.mem_map.mpr ⟨bay, among, same.symm⟩)]
  · intro entry member
    obtain ⟨bay, among, same⟩ := owned member
    obtain ⟨⟨container, address⟩, length⟩ := entry
    subst same
    exact (untouched.registrations bay among address).trans (registrations.has _ member)
  · intro key length found
    rw [getElem?_elsewhere] at found
    split at found
    · cases found
    · exact found
  · intro strict key length found
    by_cases own : key.1 ∈ depot.bays.map Bay.container
    · obtain ⟨bay, among, same⟩ := List.mem_map.mp own
      obtain ⟨container, address⟩ := key
      subst same
      rw [untouched.registrations bay among] at found
      refine (registrations.only id _ _ found).imp_right fun based => ?_
      rw [sound.foreign bay among] at based
      cases based
    · rw [getElem?_elsewhere, if_neg own]
      exact Or.inr found

private theorem moved_comprises (sound : Sound base depot) {after : Simulator}
    (untouched : depot.Untouched after) :
    Comprises False ∅ (depot.pages ++ (depot.moved after).memory) after.mappings := by
  have mappings := sound.carries.mappings
  have all : Comprises False ∅ after.mappings.toList after.mappings := .toList _
  have page {entry : Nat × Nat} (member : entry ∈ depot.pages) :
      after.mappings[entry.1]? = some entry.2 := by
    rw [untouched.pages entry member]
    exact mappings.has entry (List.mem_append_left _ member)
  constructor
  · rw [List.map_append, List.nodup_append']
    refine ⟨?_, ?_, ?_⟩
    · have distinct := mappings.distinct
      rw [List.map_append] at distinct
      exact distinct.of_append_left
    · exact all.distinct.sublist (List.filter_sublist.map _)
    · intro key own other
      obtain ⟨entry, member, rfl⟩ := List.mem_map.mp other
      exact of_decide_eq_true (List.mem_filter.mp member).2 own
  · intro entry _
    exact Std.ExtTreeMap.getElem?_empty
  · intro entry member
    rcases List.mem_append.mp member with own | other
    · exact page own
    · exact all.has entry (List.mem_filter.mp other).1
  · intro key length found
    rw [Std.ExtTreeMap.getElem?_empty] at found
    cases found
  · intro _ key length found
    refine Or.inl (List.mem_append.mpr ?_)
    by_cases own : key ∈ depot.pages.map Prod.fst
    · obtain ⟨entry, member, rfl⟩ := List.mem_map.mp own
      cases (page member).symm.trans found
      exact Or.inl member
    · exact Or.inr (List.mem_filter.mpr ⟨all.getElem?_iff.mp found, decide_eq_true own⟩)

theorem moved (sound : Sound base depot) {after : Simulator} (next : Step depot.machine after)
    (untouched : depot.Untouched after) : Sound (elsewhere depot after) (depot.moved after) where
  own := sound.own
  settled bay among := by
    have known := sound.settled bay among
    refine ⟨(untouched.container bay among).trans known.container, ?_, ?_⟩
    · obtain ⟨name, opened⟩ := known.source
      exact ⟨name, (untouched.source bay among).trans opened⟩
    · exact (getElem?_elsewhere depot after _).trans (if_pos (List.mem_map_of_mem among))
  foreign bay among address :=
    (getElem?_elsewhere depot after _).trans (if_pos (List.mem_map_of_mem among))
  elevated := sound.elevated
  carries := {
    fresh := sound.carries.fresh.step next
    elevated := sound.carries.elevated.place sound.carries.fresh next.change.placement
    descriptors := rfl
    faults := rfl
    registrations := sound.elsewhere_comprises untouched
    mappings := sound.moved_comprises untouched }

theorem empty {machine : Simulator} (fresh : machine.Fresh) (elevated : machine.Elevated) :
    Sound machine.registrations
      { machine := machine, memory := machine.mappings.toList, bays := [] } where
  own := List.nodup_nil
  settled := nofun
  foreign := nofun
  elevated := nofun
  carries := ⟨fresh, elevated, rfl, rfl, .refl False _, .toList _⟩

end Sound

theorem Attained.sound {files : FileTree} {depot : Depot} (attained : Attained files depot) :
    ∃ base, Sound base depot := by
  induction attained with
  | empty fresh elevated => exact ⟨_, .empty fresh elevated⟩
  | join _ container source own translating device bare ih =>
      obtain ⟨base, sound⟩ := ih
      exact ⟨base, sound.join own translating device bare⟩
  | register _ index address length ih =>
      obtain ⟨base, sound⟩ := ih
      exact ⟨base, sound.register files index address length⟩
  | unregister _ index place ih =>
      obtain ⟨base, sound⟩ := ih
      exact ⟨base, sound.unregister files index place⟩
  | release _ index ih =>
      obtain ⟨base, sound⟩ := ih
      exact ⟨base, sound.release files index⟩
  | allocate _ length ih =>
      obtain ⟨base, sound⟩ := ih
      exact ⟨base, sound.allocate length⟩
  | inject _ fault ih =>
      obtain ⟨base, sound⟩ := ih
      refine ⟨base, sound.control (.inject fault) ?_ ?_ ?_⟩
      all_goals
        unfold Simulator.inject
        split <;> rfl
  | clearFaults _ ih =>
      obtain ⟨base, sound⟩ := ih
      exact ⟨base, sound.control .clearFaults rfl rfl rfl⟩
  | others _ next untouched ih =>
      obtain ⟨base, sound⟩ := ih
      exact ⟨_, sound.moved next untouched⟩

/-- An operation comes to the same when it is watched, and no removal that it asks for is
refused. -/
structure Unrefused {α : Type} (machine : Simulator) (plain : Logged Simulator α)
    (watched : Logged Watch α) : Prop where
  same : let observed := watched ⟨⟨machine, []⟩, []⟩
    plain ⟨machine, []⟩ = (observed.1, observed.2.unwatched)
  granted : ∀ observation ∈ (watched ⟨⟨machine, []⟩, []⟩).2.world.seen, observation.deed.Granted

/-- Registering and unregistering undo each other, interrupt page and all. After whatever has been
done, containers and host show the buffers and pages of the bays; and whatever is done next,
a failure changes nothing of it, the page comes with a buffer and goes with one, and
nothing is asked to be removed that is not there. -/
theorem Attained.symmetric {files : FileTree} {depot : Depot} (attained : Attained files depot) :
    depot.Agreement ∧
      ∀ (index : Nat) (bay : Bay), depot.bays[index]? = some bay →
        (∀ (address : HostAddress) (length : Nat),
          let ended := bay.space.register (Simulator.platform files) address length
            ⟨depot.machine, []⟩
          Unrefused depot.machine (bay.space.register (Simulator.platform files) address length)
              (bay.space.register (Simulator.platform files).watched address length) ∧
            (∀ failure, ended.1.1 = .error failure → ended.1.2 = bay.space ∧
              ended.2.world.registrations = depot.machine.registrations ∧
              ended.2.world.mappings = depot.machine.mappings) ∧
            ∀ registration, ended.1.1 = .ok registration → registration = ⟨address, length⟩ ∧
              (bay.space.hasInterruptPage = true ∨
                depot.machine.has .mapInterruptPage = false →
                  ended.1.2.hasInterruptPage = true)) ∧
        (∀ buffer ∈ bay.buffers,
          Unrefused depot.machine (bay.space.unregister (Simulator.platform files) buffer)
              (bay.space.unregister (Simulator.platform files).watched buffer) ∧
            (bay.space.unregister (Simulator.platform files) buffer
              ⟨depot.machine, []⟩).1.hasInterruptPage = false) ∧
        Unrefused depot.machine (bay.space.releaseInterruptPage (Simulator.platform files))
            (bay.space.releaseInterruptPage (Simulator.platform files).watched) ∧
          (bay.space.releaseInterruptPage (Simulator.platform files)
            ⟨depot.machine, []⟩).1.hasInterruptPage = false := by
  obtain ⟨base, sound⟩ := attained.sound
  refine ⟨sound.agreement, fun index bay found => ⟨?_, ?_, ?_⟩⟩
  · intro address length
    have settled := sound.settled bay (List.mem_of_getElem? found)
    have mirrors := (Simulator.platform files).watched_reflects.register bay.space address length
    have same := mirrors ⟨⟨depot.machine, []⟩, []⟩
    obtain ⟨-, known⟩ := DmaSpace.register_carries files settled (sound.watched found)
      (sound.apart found) address length []
    change bay.space.register (Simulator.platform files) address length ⟨depot.machine, []⟩ = _
      at same
    dsimp only
    rw [same]
    refine ⟨⟨same, ?_⟩, ?_, ?_⟩
    all_goals
      generalize bay.space.register (Simulator.platform files).watched address length
        ⟨⟨depot.machine, []⟩, []⟩ = observed at known ⊢
      obtain ⟨⟨result, space⟩, reached⟩ := observed
    · cases result with
      | ok registration => exact known.2.2.1.granted
      | error failure => exact known.2.1.granted
    · rintro failure ⟨⟩
      exact ⟨known.1, known.2.2⟩
    · rintro registration ⟨⟩
      exact ⟨known.1, known.2.2.2⟩
  · intro buffer held
    obtain ⟨place, listed⟩ := List.mem_iff_getElem?.mp held
    have mirrors := (Simulator.platform files).watched_reflects.unregister bay.space buffer
    have same := mirrors ⟨⟨depot.machine, []⟩, []⟩
    obtain ⟨left, kept⟩ := DmaSpace.unregister_carries files (sound.watched_buffer found listed) []
    refine ⟨⟨same, kept.granted⟩, ?_⟩
    exact (congrArg (fun ended => ended.1.hasInterruptPage) same).trans
      (congrArg DmaSpace.hasInterruptPage left)
  · have mirrors := (Simulator.platform files).watched_reflects.releaseInterruptPage bay.space
    have same := mirrors ⟨⟨depot.machine, []⟩, []⟩
    obtain ⟨left, kept⟩ := DmaSpace.releaseInterruptPage_carries files (sound.watched found) []
    refine ⟨⟨same, kept.granted⟩, ?_⟩
    exact (congrArg (fun ended => ended.1.hasInterruptPage) same).trans
      (congrArg DmaSpace.hasInterruptPage left)

/-- A page that could not be registered with the first buffer comes with the second one, and the
first one takes it away. -/
theorem Attained.symmetric_of_late_page :
    let named := Tool.demonstration .standard
    let attached := ((named.openContainer.2.openGroup ⟨0⟩).2.setContainer ⟨4⟩ ⟨3⟩).2
    let machine := ((attached.setIommu ⟨3⟩).2.deviceFd ⟨4⟩ ContainerName.standard.text).2
    let files : FileTree := ⟨[], []⟩
    let alone : Depot := { machine := machine, memory := machine.mappings.toList, bays := [] }
    let joined := ((alone.join ⟨3⟩ ⟨5⟩).allocate 8192).allocate 100
    let hindered := { joined with machine := joined.machine.inject .mapInterruptPage }
    let first := hindered.register files 0 ⟨firstAddress⟩ 8192
    let cleared := { first with machine := first.machine.clearFaults }
    let second := cleared.register files 0 ⟨firstAddress + 0x3000⟩ 100
    let shown (depot : Depot) := depot.bays.map fun bay =>
      (bay.buffers.map Registration.length, bay.space.hasInterruptPage)
    shown first = [([8192], false)] ∧ shown second = [([100, 8192], true)] ∧
      second.Agreement ∧ ∀ bay, second.bays[0]? = some bay → ∀ buffer ∈ bay.buffers,
        (bay.space.unregister (Simulator.platform files) buffer
          ⟨second.machine, []⟩).1.hasInterruptPage = false := by
  intro named attached machine files alone joined hindered first cleared second shown
  have reachable : machine.Reachable :=
    (((((Simulator.reachable_demonstration .standard).step .openContainer).step
      (.openGroup ⟨0⟩)).step (.setContainer ⟨4⟩ ⟨3⟩)).step (.setIommu ⟨3⟩)).step
        (.deviceFd ⟨4⟩ ContainerName.standard.text)
  have bare : machine.registrations.isEmpty = true := by decide +kernel
  have empty : Attained files alone := .empty reachable.fresh reachable.elevated
  have attained : Attained files joined := by
    refine .allocate (.allocate (empty.join ⟨3⟩ ⟨5⟩ nofun (by decide +kernel)
      ⟨ContainerName.standard.text, by decide +kernel⟩ fun address => ?_) 8192) 100
    rw [Std.ExtTreeMap.isEmpty_iff.mp bare]
    exact Std.ExtTreeMap.getElem?_empty
  obtain ⟨agreement, each⟩ := ((((attained.inject .mapInterruptPage).register 0 ⟨firstAddress⟩
    8192).clearFaults).register 0 ⟨firstAddress + 0x3000⟩ 100).symmetric
  refine ⟨by decide +kernel, by decide +kernel, agreement, fun bay found buffer held => ?_⟩
  exact ((each 0 bay found).2.1 buffer held).2

end Depot

end Passthrough
