import Passthrough.Proofs.Simulator.CallFrames
import Passthrough.Proofs.Simulator.Reachable
import Passthrough.Proofs.Table.Comprises
import Passthrough.Proofs.Watch.Mirror

set_option autoImplicit false

/-! What a machine has mapped and registered while buffers come and go. Both tables are
known entry by entry, and each operation of a device-visible space adds entries or
takes them away. As long as nothing is removed that is not there, no removal is refused. -/

namespace Passthrough

open Files (FileTree)
open Simulator (registrationOrder firstAddress Step)

theorem Simulator.firstAddress_ne {address : Nat} (above : firstAddress ≤ address) :
    address ≠ Staging.interruptAddress := by
  unfold firstAddress at above
  unfold Staging.interruptAddress
  omega

/-- The host mappings of a machine are known, and so are its registrations beside a base. Its
descriptors and its faults are those of an origin. -/
structure Simulator.Carries (origin : Simulator)
    (base : Std.ExtTreeMap (Int × Nat) Nat registrationOrder)
    (registered : List ((Int × Nat) × Nat)) (mapped : List (Nat × Nat)) (sim : Simulator) :
    Prop where
  fresh : sim.Fresh
  elevated : sim.Elevated
  descriptors : sim.descriptors = origin.descriptors
  faults : sim.faults = origin.faults
  registrations : Comprises False base registered sim.registrations
  mappings : Comprises False ∅ mapped sim.mappings

namespace Simulator.Carries

variable {origin sim : Simulator} {base : Std.ExtTreeMap (Int × Nat) Nat registrationOrder}
  {registered : List ((Int × Nat) × Nat)} {mapped : List (Nat × Nat)}

theorem mapDma (carries : Carries origin base registered mapped sim) (container : ContainerFd)
    (host : HostAddress) (device : DeviceAddress) (length : Nat) :
    match sim.mapDma container host device length with
    | (.ok _, after) =>
        Carries origin base (((container.number, device.value), length) :: registered) mapped after
    | (.error _, after) => Carries origin base registered mapped after ∧
        after.registrations = sim.registrations ∧ after.mappings = sim.mappings := by
  obtain ⟨descriptors, mappings, registrations⟩ :=
    mapDma_tables sim container host device length
  have next : Step sim _ := .mapDma container host device length
  have fresh := carries.fresh.step next
  have elevated := carries.elevated.place carries.fresh next.change.placement
  have faults : (sim.mapDma container host device length).2.faults = sim.faults := by
    rw [(Aside.mapDma sim container host device length).same]
  cases ended : sim.mapDma container host device length with
  | mk result after =>
      rw [ended] at descriptors mappings registrations fresh elevated faults
      have same : Comprises False ∅ mapped after.mappings := by
        rw [mappings]
        exact carries.mappings
      cases result with
      | error failure =>
          refine ⟨⟨fresh, elevated, descriptors.trans carries.descriptors,
            faults.trans carries.faults, ?_, same⟩, registrations, mappings⟩
          rw [registrations]
          exact carries.registrations
      | ok done =>
          refine ⟨fresh, elevated, descriptors.trans carries.descriptors,
            faults.trans carries.faults, ?_, same⟩
          rw [registrations.2]
          exact carries.registrations.insert length registrations.1

theorem mapDma_elevated (carries : Carries origin base registered mapped sim)
    {container : ContainerFd} {host : HostAddress} {device : DeviceAddress} {length : Nat}
    (done : (sim.mapDma container host device length).1 = .ok ()) :
    firstAddress ≤ host.value := by
  obtain ⟨buffers, counted⟩ := countRegistration_shape sim device
  rw [mapDma_eq, counted] at done
  dsimp only at done
  repeat' split at done
  all_goals cases done
  next found _ =>
    unfold isMapped at found
    split at found
    · next length known => exact carries.elevated _ _ known
    · cases found

theorem mapDma_page (carries : Carries origin base registered mapped sim)
    {container : ContainerFd} {page : HostAddress}
    (opened : origin.descriptors[container.number]? = some (.container true))
    (sound : origin.has .mapInterruptPage = false)
    (among : (page.value, Staging.interruptLength) ∈ mapped)
    (based : base[(container.number, Staging.interruptAddress)]? = none)
    (apart : ∀ entry ∈ registered, entry.1 ≠ (container.number, Staging.interruptAddress)) :
    (sim.mapDma container page DmaSpace.interruptAddress Staging.interruptLength).1 = .ok () := by
  have counted : sim.countRegistration DmaSpace.interruptAddress = sim := if_pos rfl
  have fault : sim.registrationFault DmaSpace.interruptAddress = .mapInterruptPage := if_pos rfl
  have harmless : ¬ sim.has .mapInterruptPage = true := by
    rw [has, carries.faults]
    exact Bool.eq_false_iff.mp sound
  have known : sim.isMapped page Staging.interruptLength = true := by
    unfold isMapped
    rw [carries.mappings.has _ among]
    exact decide_eq_true (Nat.le_refl _)
  have vacant :
      ¬ sim.registrations.contains (container.number, Staging.interruptAddress) = true := by
    rw [Std.ExtTreeMap.contains_eq_isSome_getElem?, Option.not_isSome_iff_eq_none]
    cases found : sim.registrations[(container.number, Staging.interruptAddress)]? with
    | none => rfl
    | some length =>
        rcases carries.registrations.only id _ _ found with listed | known
        · exact absurd rfl (apart _ listed)
        · rw [based] at known
          cases known
  rw [mapDma_eq]
  dsimp only
  rw [counted, fault, if_neg harmless, carries.descriptors, opened]
  dsimp only
  rw [if_pos rfl, if_pos known]
  exact congrArg Prod.fst (if_neg vacant)

theorem mapDevice (carries : Carries origin base registered mapped sim) {device : DeviceFd}
    {name : String} (opened : origin.descriptors[device.number]? = some (.device name))
    (offset : UInt64) (length : Nat) :
    ∃ page after, sim.mapDevice device offset length = (.ok page, after) ∧
      Carries origin base registered ((page.value, length) :: mapped) after := by
  have next : Step sim _ := .mapDevice device offset length
  have fresh := carries.fresh.step next
  have elevated := carries.elevated.place carries.fresh next.change.placement
  have vacant := carries.fresh.mappings sim.nextAddress (Nat.le_refl _)
  rw [mapDevice_eq, carries.descriptors, opened] at fresh elevated ⊢
  exact ⟨_, _, rfl, fresh, elevated, carries.descriptors, carries.faults, carries.registrations,
    carries.mappings.insert length vacant⟩

theorem unmapDma {container : ContainerFd} {device : DeviceAddress} {registeredLength : Nat}
    (carries : Carries origin base
      (((container.number, device.value), registeredLength) :: registered) mapped sim)
    (length : Nat) :
    ∃ after, sim.unmapDma container device length = (.ok (), after) ∧
      Carries origin base registered mapped after := by
  have next : Step sim _ := .unmapDma container device length
  have fresh := carries.fresh.step next
  have elevated := carries.elevated.place carries.fresh next.change.placement
  have there : sim.registrations.contains (container.number, device.value) = true := by
    rw [Std.ExtTreeMap.contains_eq_isSome_getElem?,
      carries.registrations.has _ List.mem_cons_self]
    rfl
  rw [unmapDma_eq, if_pos there] at fresh elevated ⊢
  exact ⟨_, rfl, fresh, elevated, carries.descriptors, carries.faults,
    carries.registrations.erase, carries.mappings⟩

theorem unmap {address : HostAddress} {length : Nat}
    (carries : Carries origin base registered ((address.value, length) :: mapped) sim) :
    ∃ after, sim.unmap address length = (.ok (), after) ∧
      Carries origin base registered mapped after := by
  have next : Step sim _ := .unmap address length
  have fresh := carries.fresh.step next
  have elevated := carries.elevated.place carries.fresh next.change.placement
  have there := carries.mappings.has _ List.mem_cons_self
  rw [unmap_eq, if_pos there] at fresh elevated ⊢
  exact ⟨_, rfl, fresh, elevated, carries.descriptors, carries.faults, carries.registrations,
    carries.mappings.erase⟩

theorem perm {otherRegistered : List ((Int × Nat) × Nat)} {otherMapped : List (Nat × Nat)}
    (carries : Carries origin base registered mapped sim)
    (registrations : registered.Perm otherRegistered) (mappings : mapped.Perm otherMapped) :
    Carries origin base otherRegistered otherMapped sim :=
  { carries with
    registrations := carries.registrations.perm registrations
    mappings := carries.mappings.perm mappings }

end Simulator.Carries

/-! ### Watching that no removal is refused -/

/-- A removal that was granted; anything else counts as granted. -/
def Deed.Granted : Deed → Prop
  | .unmapDma _ _ _ result => result = .ok ()
  | .unmap _ _ result => result = .ok ()
  | _ => True

structure Watch.Carries (origin : Simulator)
    (base : Std.ExtTreeMap (Int × Nat) Nat registrationOrder)
    (registered : List ((Int × Nat) × Nat)) (mapped : List (Nat × Nat)) (watch : Watch) :
    Prop where
  machine : Simulator.Carries origin base registered mapped watch.machine
  granted : ∀ observation ∈ watch.seen, observation.deed.Granted

theorem Watch.yields_ofWorld {α : Type} (deed : Result α → Deed)
    (step : Simulator → Result α × Simulator) (watch : Watch) :
    (Watch.act deed (Act.ofWorld step)).Yields watch fun result reached =>
      ∃ after, step watch.machine = (result, after) ∧ reached = watch.saw (deed result) after :=
  fun _ => ⟨_, rfl, rfl⟩

namespace Watch.Carries

variable {origin : Simulator} {base : Std.ExtTreeMap (Int × Nat) Nat registrationOrder}
  {registered left : List ((Int × Nat) × Nat)} {mapped kept : List (Nat × Nat)} {watch : Watch}
  {after : Simulator} {deed : Deed}

theorem saw (carries : Carries origin base registered mapped watch)
    (machine : Simulator.Carries origin base left kept after) (granted : deed.Granted) :
    Carries origin base left kept (watch.saw deed after) where
  machine := machine
  granted := List.forall_mem_cons.mpr ⟨granted, carries.granted⟩

theorem perm (carries : Carries origin base registered mapped watch)
    (registrations : registered.Perm left) (mappings : mapped.Perm kept) :
    Carries origin base left kept watch :=
  ⟨carries.machine.perm registrations mappings, carries.granted⟩

variable (files : FileTree)

theorem mapDma (carries : Carries origin base registered mapped watch) (container : ContainerFd)
    (host : HostAddress) (device : DeviceAddress) (length : Nat) :
    ((Simulator.platform files).watched.mapDma container host device length).Yields watch
      fun result reached => (watch.machine.mapDma container host device length).1 = result ∧
        match result with
        | .ok _ => firstAddress ≤ host.value ∧ Carries origin base
            (((container.number, device.value), length) :: registered) mapped reached
        | .error _ => Carries origin base registered mapped reached ∧
            reached.machine.registrations = watch.machine.registrations ∧
            reached.machine.mappings = watch.machine.mappings := by
  refine (Watch.yields_ofWorld _ _ watch).mono ?_
  rintro result _ ⟨after, ended, rfl⟩
  have moved := carries.machine.mapDma container host device length
  rw [ended] at moved ⊢
  refine ⟨rfl, ?_⟩
  cases result with
  | ok done =>
      have elevated := carries.machine.mapDma_elevated (congrArg Prod.fst ended)
      exact ⟨elevated, carries.saw moved trivial⟩
  | error failure => exact ⟨carries.saw moved.1 trivial, moved.2⟩

theorem mapDevice (carries : Carries origin base registered mapped watch) {device : DeviceFd}
    {name : String} (opened : origin.descriptors[device.number]? = some (.device name))
    (offset : UInt64) (length : Nat) :
    ((Simulator.platform files).watched.mapDevice device offset length).Yields watch
      fun result reached => ∃ page, result = .ok page ∧
        Carries origin base registered ((page.value, length) :: mapped) reached := by
  refine (Watch.yields_ofWorld _ _ watch).mono ?_
  rintro result _ ⟨after, ended, rfl⟩
  obtain ⟨page, reached, done, moved⟩ := carries.machine.mapDevice opened offset length
  cases ended.symm.trans done
  exact ⟨page, rfl, carries.saw moved trivial⟩

theorem unmapDma (container : ContainerFd) (device : DeviceAddress) {registeredLength : Nat}
    (carries : Carries origin base
      (((container.number, device.value), registeredLength) :: registered) mapped watch)
    (length : Nat) :
    ((Simulator.platform files).watched.unmapDma container device length).Yields watch
      fun result reached => result = .ok () ∧ Carries origin base registered mapped reached := by
  refine (Watch.yields_ofWorld _ _ watch).mono ?_
  rintro result _ ⟨after, ended, rfl⟩
  obtain ⟨reached, done, moved⟩ := carries.machine.unmapDma length
  cases ended.symm.trans done
  exact ⟨rfl, carries.saw moved rfl⟩

theorem unmap {address : HostAddress} {length : Nat}
    (carries : Carries origin base registered ((address.value, length) :: mapped) watch) :
    ((Simulator.platform files).watched.unmap address length).Yields watch
      fun result reached => result = .ok () ∧ Carries origin base registered mapped reached := by
  refine (Watch.yields_ofWorld _ _ watch).mono ?_
  rintro result _ ⟨after, ended, rfl⟩
  obtain ⟨reached, done, moved⟩ := carries.machine.unmap
  cases ended.symm.trans done
  exact ⟨rfl, carries.saw moved rfl⟩

end Watch.Carries

/-! ### The interrupt page -/

namespace DmaSpace

def pageRegistrations (space : DmaSpace) : List ((Int × Nat) × Nat) :=
  space.interruptPage.toList.map fun _ =>
    ((space.container.number, Staging.interruptAddress), Staging.interruptLength)

def pageMappings (space : DmaSpace) : List (Nat × Nat) :=
  space.interruptPage.toList.map fun page => (page.value, Staging.interruptLength)

variable {origin : Simulator} {base : Std.ExtTreeMap (Int × Nat) Nat registrationOrder}
  {registered : List ((Int × Nat) × Nat)} {mapped : List (Nat × Nat)} {watch : Watch}
  (files : FileTree)

theorem unmapInterruptPage_carries {page : HostAddress}
    (carries : Watch.Carries origin base registered
      ((page.value, Staging.interruptLength) :: mapped) watch) :
    (unmapInterruptPage (Simulator.platform files).watched page).Yields watch
      fun _ reached => Watch.Carries origin base registered mapped reached := by
  unfold unmapInterruptPage
  refine Logged.Yields.andThen (carries.unmap files) ?_
  rintro _ reached ⟨rfl, kept⟩
  exact Logged.Yields.pure kept

theorem releaseInterruptPage_carries {space : DmaSpace} (carries : Watch.Carries origin base
      (space.pageRegistrations ++ registered) (space.pageMappings ++ mapped) watch) :
    (space.releaseInterruptPage (Simulator.platform files).watched).Yields watch
      fun left reached => left = { space with interruptPage := none } ∧
        Watch.Carries origin base registered mapped reached := by
  obtain ⟨container, source, page⟩ := space
  cases page with
  | none => exact Logged.Yields.pure ⟨rfl, carries⟩
  | some page =>
      unfold releaseInterruptPage
      refine Logged.Yields.andThen
        (Watch.Carries.unmapDma files container interruptAddress carries _) ?_
      rintro _ reached ⟨rfl, kept⟩
      refine Logged.Yields.andThen (unmapInterruptPage_carries files kept) ?_
      exact fun _ _ gone => Logged.Yields.pure ⟨rfl, gone⟩

/-- A space over an open container, whose interrupt page can be mapped from an open device and is
nobody else's. -/
structure Settled (origin : Simulator) (base : Std.ExtTreeMap (Int × Nat) Nat registrationOrder)
    (space : DmaSpace) : Prop where
  container : origin.descriptors[space.container.number]? = some (.container true)
  source : ∃ name, origin.descriptors[space.interruptSource.number]? = some (.device name)
  based : base[(space.container.number, Staging.interruptAddress)]? = none

theorem Settled.congr {after : Simulator} {space : DmaSpace} (settled : space.Settled origin base)
    (same : after.descriptors = origin.descriptors) : space.Settled after base where
  container := by
    rw [same]
    exact settled.container
  source := by
    rw [same]
    exact settled.source
  based := settled.based

theorem ensureInterruptPage_carries {space : DmaSpace} (settled : space.Settled origin base)
    (carries : Watch.Carries origin base
      (space.pageRegistrations ++ registered) (space.pageMappings ++ mapped) watch)
    (apart : ∀ entry ∈ registered,
      entry.1 ≠ (space.container.number, Staging.interruptAddress)) :
    (space.ensureInterruptPage (Simulator.platform files).watched).Yields watch
      fun left reached => (∃ page, left = { space with interruptPage := page }) ∧
        Watch.Carries origin base
          (left.pageRegistrations ++ registered) (left.pageMappings ++ mapped) reached ∧
        (space.hasInterruptPage = true ∨ origin.has .mapInterruptPage = false →
          left.hasInterruptPage = true) := by
  obtain ⟨container, source, page⟩ := space
  cases page with
  | some page => exact Logged.Yields.pure ⟨⟨page, rfl⟩, carries, fun _ => rfl⟩
  | none =>
      obtain ⟨name, opened⟩ := settled.source
      unfold ensureInterruptPage
      refine Logged.Yields.andThen (carries.mapDevice files opened _ _) ?_
      rintro _ middle ⟨page, rfl, mappedPage⟩
      refine Logged.Yields.andThen
        (mappedPage.mapDma files container page interruptAddress Staging.interruptLength) ?_
      rintro result reached ⟨ended, known⟩
      cases result with
      | ok done =>
          exact Logged.Yields.pure ⟨⟨some page, rfl⟩, known.2, fun _ => rfl⟩
      | error failure =>
          -- The page was mapped in vain, and it is not left behind.
          refine Logged.Yields.afterNote (Logged.Yields.andThen
            (unmapInterruptPage_carries files known.1) fun _ cleaned kept => ?_)
          refine Logged.Yields.pure ⟨⟨none, rfl⟩, kept, ?_⟩
          rintro (impossible | sound)
          · cases impossible
          · have done := mappedPage.machine.mapDma_page settled.container sound
              List.mem_cons_self settled.based apart
            cases ended.symm.trans done

theorem register_carries {space : DmaSpace} (settled : space.Settled origin base)
    (carries : Watch.Carries origin base
      (space.pageRegistrations ++ registered) (space.pageMappings ++ mapped) watch)
    (apart : ∀ entry ∈ registered,
      entry.1 ≠ (space.container.number, Staging.interruptAddress))
    (address : HostAddress) (length : Nat) :
    (space.register (Simulator.platform files).watched address length).Yields watch
      fun outcome reached => (∃ page, outcome.2 = { space with interruptPage := page }) ∧
        match outcome.1 with
        | .ok registration => registration = ⟨address, length⟩ ∧ firstAddress ≤ address.value ∧
            Watch.Carries origin base
              (outcome.2.pageRegistrations ++
                ((space.container.number, address.value), length) :: registered)
              (outcome.2.pageMappings ++ mapped) reached ∧
            (space.hasInterruptPage = true ∨ origin.has .mapInterruptPage = false →
              outcome.2.hasInterruptPage = true)
        | .error _ => outcome.2 = space ∧
            Watch.Carries origin base
              (space.pageRegistrations ++ registered) (space.pageMappings ++ mapped) reached ∧
            reached.machine.registrations = watch.machine.registrations ∧
            reached.machine.mappings = watch.machine.mappings := by
  unfold register
  refine Logged.Yields.andThen
    (carries.mapDma files space.container address address.identity length) ?_
  rintro result reached ⟨-, known⟩
  cases result with
  | error failure => exact Logged.Yields.pure ⟨⟨_, rfl⟩, rfl, known⟩
  | ok done =>
      obtain ⟨elevated, registeredBuffer⟩ := known
      -- A buffer lies where memory is mapped, and so it does not take the page's place.
      have others : ∀ entry ∈ ((space.container.number, address.value), length) :: registered,
          entry.1 ≠ (space.container.number, Staging.interruptAddress) := by
        refine List.forall_mem_cons.mpr ⟨fun same => ?_, apart⟩
        exact Simulator.firstAddress_ne elevated (Prod.mk.inj same).2
      have moved : Watch.Carries origin base (space.pageRegistrations ++
          ((space.container.number, address.value), length) :: registered)
          (space.pageMappings ++ mapped) reached :=
        registeredBuffer.perm List.perm_middle.symm (.refl _)
      refine Logged.Yields.andThen (ensureInterruptPage_carries files settled moved others) ?_
      rintro left ended ⟨same, kept, present⟩
      exact Logged.Yields.pure ⟨same, rfl, elevated, kept, present⟩

theorem unregister_carries {space : DmaSpace} {registration : Registration}
    (carries : Watch.Carries origin base (space.pageRegistrations ++
        ((space.container.number, registration.address.value), registration.length) :: registered)
      (space.pageMappings ++ mapped) watch) :
    (space.unregister (Simulator.platform files).watched registration).Yields watch
      fun left reached => left = { space with interruptPage := none } ∧
        Watch.Carries origin base registered mapped reached := by
  unfold unregister
  have front := carries.perm List.perm_middle (.refl _)
  refine Logged.Yields.andThen
    (Watch.Carries.unmapDma files space.container registration.deviceAddress front _) ?_
  rintro _ reached ⟨rfl, kept⟩
  exact releaseInterruptPage_carries files kept

end DmaSpace

end Passthrough
