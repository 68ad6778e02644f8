import Passthrough.Pool.Acquire
import Passthrough.Proofs.Simulator.Orderly

set_option autoImplicit false

/-! A machine that refuses nothing to whoever takes a group. A group that it offers can be
opened; once it is open it waits to be lodged, and any open container takes it in. What
a container goes through before it takes the group in changes nothing of that. -/

namespace Passthrough.Simulator

/-- A group that is there to be taken, with nothing in the way. -/
structure Offers (sim : Simulator) (group : GroupId) : Prop where
  faultless : sim.faults = []
  apiVersion : sim.apiVersion = Pool.supportedApi
  viable : ∃ object, sim.groups[group.number]? = some object ∧ object.viable = true
  unopened : sim.isOpenGroup group = false

/-- A group that was opened as `descriptor` and waits to be attached, with nothing in the way. -/
structure Awaits (sim : Simulator) (group : GroupId) (descriptor : GroupFd) : Prop where
  faultless : sim.faults = []
  apiVersion : sim.apiVersion = Pool.supportedApi
  viable : ∃ object, sim.groups[group.number]? = some object ∧ object.viable = true
  opened : sim.descriptors[descriptor.number]? = some (.group group)
  unattached : sim.attachments[descriptor.number]? = none
  issued : descriptor.number ≤ sim.lastDescriptor

def withGroup (sim : Simulator) (group : GroupId) : Simulator :=
  ((sim.note (.openGroup group)).issue (.group group)).2

def withAttachment (sim : Simulator) (group : GroupFd) (container : ContainerFd) : Simulator :=
  { sim with attachments := sim.attachments.insert group.number container.number }

variable {sim : Simulator} {group : GroupId} {descriptor : GroupFd} {container : ContainerFd}

theorem has_of_faultless (faultless : sim.faults = []) (fault : Fault) :
    sim.has fault = false := by
  rw [has, faultless]
  rfl

theorem history_note (sim : Simulator) (event : Event) :
    (sim.note event).history = sim.history ++ [event] :=
  List.reverse_cons

theorem attachments_withAttachment :
    (sim.withAttachment descriptor container).attachments[descriptor.number]? =
      some container.number :=
  Std.ExtTreeMap.getElem?_insert_self

theorem getElem?_insert_next {number : Int} (issued : number ≤ sim.lastDescriptor)
    (object : OpenObject) :
    (sim.descriptors.insert (sim.lastDescriptor + 1) object)[number]? =
      sim.descriptors[number]? := by
  have apart : sim.lastDescriptor + 1 ≠ number := by omega
  rw [Std.ExtTreeMap.getElem?_insert, if_neg (by simpa using apart)]

theorem Fresh.issued (fresh : sim.Fresh) {number : Int} {object : OpenObject}
    (opened : sim.descriptors[number]? = some object) : number ≤ sim.lastDescriptor := by
  apply Int.not_lt.mp
  intro beyond
  rw [fresh.descriptors number beyond] at opened
  cases opened

namespace Offers

theorem openGroup (offers : sim.Offers group) :
    sim.openGroup group = (.ok ⟨sim.lastDescriptor + 1⟩, sim.withGroup group) := by
  obtain ⟨object, found, -⟩ := offers.viable
  have known : sim.groups.contains group.number = true := by
    rw [Std.ExtTreeMap.contains_eq_isSome_getElem?, found]
    rfl
  rw [openGroup_eq, has_of_faultless offers.faultless, known, offers.unopened]
  rfl

theorem awaits (offers : sim.Offers group) (orderly : sim.Orderly) :
    (sim.withGroup group).Awaits group ⟨sim.lastDescriptor + 1⟩ where
  faultless := offers.faultless
  apiVersion := offers.apiVersion
  viable := offers.viable
  opened := Std.ExtTreeMap.getElem?_insert_self
  unattached := by
    change sim.attachments[sim.lastDescriptor + 1]? = none
    rw [Option.eq_none_iff_forall_ne_some]
    intro attached known
    obtain ⟨_, opened⟩ := orderly.anchored _ attached known
    have issued := orderly.fresh.issued opened
    omega
  issued := Int.le_refl _

end Offers

theorem container_withGroup (orderly : sim.Orderly) {translating : Bool}
    (opened : sim.descriptors[container.number]? = some (.container translating)) :
    (sim.withGroup group).descriptors[container.number]? = some (.container translating) :=
  (getElem?_insert_next (orderly.fresh.issued opened) _).trans opened

namespace Awaits

theorem groupViable (awaits : sim.Awaits group descriptor) :
    sim.groupViable descriptor = .ok true := by
  obtain ⟨object, found, viable⟩ := awaits.viable
  simp [Simulator.groupViable, unlessFault, require, groupOf, Simulator.object,
    has_of_faultless awaits.faultless, awaits.opened, found, viable, bind, Except.bind, pure,
    Except.pure]

theorem setContainer (awaits : sim.Awaits group descriptor) {translating : Bool}
    (opened : sim.descriptors[container.number]? = some (.container translating)) :
    sim.setContainer descriptor container = (.ok (), sim.withAttachment descriptor container) := by
  rw [setContainer_eq, has_of_faultless awaits.faultless, awaits.opened, opened]
  simp [Std.ExtTreeMap.contains_eq_isSome_getElem?, awaits.unattached, withAttachment]

theorem openContainer (awaits : sim.Awaits group descriptor) :
    sim.openContainer.2.Awaits group descriptor where
  faultless := awaits.faultless
  apiVersion := awaits.apiVersion
  viable := awaits.viable
  opened := (getElem?_insert_next awaits.issued _).trans awaits.opened
  unattached := awaits.unattached
  issued := Int.le_trans awaits.issued (Int.le_of_lt (Int.lt_succ _))

theorem setIommu (awaits : sim.Awaits group descriptor) {translating : Bool}
    (opened : sim.descriptors[container.number]? = some (.container translating)) :
    (sim.withAttachment descriptor container).setIommu container =
      (.ok (), { sim.withAttachment descriptor container with
        descriptors := sim.descriptors.insert container.number (.container true) }) := by
  have attached : (sim.withAttachment descriptor container).isAttached container = true := by
    refine List.any_eq_true.mpr ⟨(descriptor.number, container.number), ?_, beq_self_eq_true _⟩
    exact Std.ExtTreeMap.mem_toList_iff_getElem?_eq_some.mpr attachments_withAttachment
  have faultless : (sim.withAttachment descriptor container).faults = [] := awaits.faultless
  have still : (sim.withAttachment descriptor container).descriptors[container.number]? =
    some (.container translating) := opened
  rw [setIommu_eq, has_of_faultless faultless, attached, still]
  rfl

end Awaits

end Passthrough.Simulator
