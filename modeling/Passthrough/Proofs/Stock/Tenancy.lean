import Passthrough.Proofs.Pool.Course
import Passthrough.Proofs.Stock.Keeping

set_option autoImplicit false

/-! Tenures as a part of an inventory. What is held for a group is some entries on top of the
others, and where the inventory is kept by the rules, so is the tenure. So a pool on such
a platform takes a group with all that belongs to it, or leaves the inventory as it was. -/

namespace Passthrough

open Simulator (OpenObject)

namespace Inventory

def withTenure (inventory : Inventory) (tenure : Tenure) : Inventory :=
  { inventory with
    descriptors :=
      (tenure.container.map fun (container, translating) =>
        (container.number, OpenObject.container translating)).toList ++
      (tenure.group.map fun (descriptor, group) =>
        (descriptor.number, OpenObject.group group)).toList ++ inventory.descriptors
    attachments :=
      match tenure.group, tenure.attached with
      | some (descriptor, _), some container =>
          (descriptor.number, container.number) :: inventory.attachments
      | _, _ => inventory.attachments }

theorem withTenure_beside (inventory others : Inventory) (tenure : Tenure) :
    (inventory.beside others).withTenure tenure = (inventory.withTenure tenure).beside others := by
  obtain ⟨group, attached, container⟩ := tenure
  unfold withTenure beside
  congr 1
  · exact (List.append_assoc _ _ _).symm
  · cases group with
    | none => rfl
    | some opened => cases attached <;> rfl

theorem Perm.withTenure {inventory others : Inventory} (same : inventory.Perm others)
    (tenure : Tenure) : (inventory.withTenure tenure).Perm (others.withTenure tenure) := by
  obtain ⟨group, attached, container⟩ := tenure
  refine ⟨same.descriptors.append_left _, ?_, same.mappings⟩
  cases group with
  | none => exact same.attachments
  | some opened =>
      cases attached with
      | none => exact same.attachments
      | some attached => exact same.attachments.cons _

theorem detached_withTenure {inventory : Inventory} {tenure : Tenure} {descriptor : GroupFd}
    {group : GroupId} (opened : tenure.group = some (descriptor, group))
    (apart : ∀ entry ∈ inventory.attachments, entry.1 ≠ descriptor.number) :
    (inventory.withTenure tenure).detached descriptor.number =
      inventory.withTenure (tenure.withAttached none) := by
  obtain ⟨held, attached, container⟩ := tenure
  cases opened
  have others := congrArg Inventory.attachments (detached_of_apart apart)
  cases attached with
  | none =>
      unfold detached withTenure Tenure.withAttached
      congr 1
  | some container =>
      unfold detached withTenure Tenure.withAttached
      congr 1
      simp only [List.filter_cons, bne_self_eq_false]
      exact others

theorem withTenure_descriptors_of_mem {inventory : Inventory} {entry : Int × OpenObject}
    (listed : entry ∈ inventory.descriptors) (tenure : Tenure) :
    entry ∈ (inventory.withTenure tenure).descriptors :=
  List.mem_append_right _ listed

theorem group_mem_withTenure (inventory : Inventory) {tenure : Tenure} {descriptor : GroupFd}
    {group : GroupId} (opened : tenure.group = some (descriptor, group)) :
    (descriptor.number, OpenObject.group group) ∈ (inventory.withTenure tenure).descriptors := by
  simp [withTenure, opened]

theorem container_mem_withTenure (inventory : Inventory) {tenure : Tenure}
    {container : ContainerFd} {translating : Bool}
    (own : tenure.container = some (container, translating)) :
    (container.number, OpenObject.container translating) ∈
      (inventory.withTenure tenure).descriptors := by
  simp [withTenure, own]

theorem attachment_mem_withTenure (inventory : Inventory) {tenure : Tenure} {descriptor : GroupFd}
    {group : GroupId} {container : ContainerFd} (opened : tenure.group = some (descriptor, group))
    (attached : tenure.attached = some container) :
    (descriptor.number, container.number) ∈ (inventory.withTenure tenure).attachments := by
  simp [withTenure, opened, attached]

end Inventory

variable {World : Type} {strange : Prop} {holds : Inventory → World → Prop}
  {platform : Platform World HostAddress}

/-- What is held for a group is there, on top of an inventory that knows nothing of the group. -/
structure Lodges (holds : Inventory → World → Prop) (inventory : Inventory) (tenure : Tenure)
    (world : World) : Prop where
  held : holds (inventory.withTenure tenure) world
  apart : ∀ descriptor group, tenure.group = some (descriptor, group) →
    ∀ entry ∈ inventory.attachments, entry.1 ≠ descriptor.number

/-- Whether groups may be attached to a container while an inventory is held. -/
def Inventory.Lodging (strange : Prop) (inventory : Inventory) (container : ContainerFd) : Prop :=
  strange ∨ ∃ translating, (container.number, .container translating) ∈ inventory.descriptors

theorem Inventory.Kept.tenure (kept : Inventory.Kept strange holds platform)
    (inventory : Inventory) :
    Tenure.Kept (inventory.Lodging strange) (Lodges holds inventory) platform where
  openGroup lodges group := by
    refine (kept.openGroup lodges.held group).mono fun result after known => known.imp ?_ ?_
    · rintro descriptor ⟨apart, held⟩
      refine ⟨held, ?_⟩
      rintro _ _ ⟨⟩
      exact apart
    · exact fun held => ⟨held, nofun⟩
  groupViable lodges _ _ opened :=
    (kept.groupViable lodges.held (inventory.group_mem_withTenure opened)).mono
      fun _ _ held => ⟨held, lodges.apart⟩
  apiVersion lodges _ _ own :=
    (kept.apiVersion lodges.held (inventory.container_mem_withTenure own)).mono
      fun _ _ held => ⟨held, lodges.apart⟩
  hasType1Iommu lodges _ _ own :=
    (kept.hasType1Iommu lodges.held (inventory.container_mem_withTenure own)).mono
      fun _ _ held => ⟨held, lodges.apart⟩
  setContainer {tenure _} lodges descriptor group opened detached container known := by
    have listed : strange ∨ ∃ translating, (container.number, OpenObject.container translating) ∈
        (inventory.withTenure tenure).descriptors := by
      rcases known with (allowed | ⟨translating, member⟩) | ⟨translating, own⟩
      · exact Or.inl allowed
      · exact Or.inr ⟨translating, withTenure_descriptors_of_mem member tenure⟩
      · exact Or.inr ⟨translating, inventory.container_mem_withTenure own⟩
    have sets := kept.setContainer lodges.held (inventory.group_mem_withTenure opened) listed
    obtain ⟨_, _, own⟩ := tenure
    cases opened
    cases detached
    refine sets.mono fun result after known => known.imp ?_ ?_
    · exact fun _ held => ⟨held, lodges.apart⟩
    · exact fun held => ⟨held, lodges.apart⟩
  unsetContainer {tenure world} lodges descriptor group opened container attached := by
    have detaches := kept.unsetContainer lodges.held (inventory.group_mem_withTenure opened)
      (inventory.attachment_mem_withTenure opened attached)
    rw [detached_withTenure opened (lodges.apart descriptor group opened)] at detaches
    refine detaches.mono ?_
    rintro (failure | _) after held
    · exact ⟨tenure.attached, held, lodges.apart⟩
    · exact ⟨none, held, lodges.apart⟩
  openContainer {tenure _} lodges bare := by
    have opens := kept.openContainer lodges.held
    obtain ⟨_, _, _⟩ := tenure
    cases bare
    refine opens.mono fun result after known => known.imp ?_ ?_
    · exact fun _ held => ⟨held, lodges.apart⟩
    · exact fun held => ⟨held, lodges.apart⟩
  setIommu {tenure _} lodges container translating own := by
    obtain ⟨_, _, _⟩ := tenure
    cases own
    refine (kept.setIommu lodges.held rfl).mono fun result after known => known.imp ?_ ?_
    · exact fun _ held => ⟨held, lodges.apart⟩
    · exact fun held => ⟨held, lodges.apart⟩
  closeContainer {tenure _} lodges container translating own := by
    obtain ⟨_, _, _⟩ := tenure
    cases own
    exact (kept.closeContainer lodges.held rfl).mono fun _ _ held => ⟨held, lodges.apart⟩
  closeGroup {tenure _} lodges descriptor group opened bare := by
    have apart := lodges.apart descriptor group opened
    obtain ⟨_, _, _⟩ := tenure
    cases opened
    cases bare
    have closes := kept.closeGroup lodges.held rfl
    rw [detached_withTenure rfl apart] at closes
    exact closes.mono fun _ _ held => ⟨held, nofun⟩

end Passthrough
