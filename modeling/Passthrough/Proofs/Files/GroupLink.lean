import Mathlib.Data.List.Basic
import Passthrough.BusPath
import Passthrough.ContainerName
import Passthrough.Files.Tree

set_option autoImplicit false

/-! Where the link of a container leads by its text. A path is resolved by its components alone:
the empty ones and single points stay where they are, a double point goes back up. The
link of an accepted name keeps the name as one component below the devices, but for
the two names that are steps themselves. No two names share a resolved link. -/

namespace Passthrough

open Files (Location)

namespace Files.Path

def tread (place : Location) (name : String) : Location :=
  if name = "" ∨ name = "." then place
  else if name = ".." then place.dropLast
  else place ++ [name]

/-- Where the components of a path lead from the root, links apart. -/
def resolved (path : String) : Location :=
  (components path).foldl tread []

theorem split_ne_nil (text : List Char) : split text ≠ [] := by
  unfold split
  repeat' split
  all_goals simp

theorem split_append (front rest : List Char) :
    split (front ++ '/' :: rest) = split front ++ split rest := by
  induction front with
  | nil => simp [split]
  | cons first others ih =>
      simp only [List.cons_append, split, ih]
      by_cases separator : first = '/'
      · simp [separator]
      · simp only [if_neg separator]
        cases whole : split others with
        | nil => exact absurd whole (split_ne_nil others)
        | cons name names => rfl

theorem split_of_notMem {text : List Char} (whole : '/' ∉ text) : split text = [text] := by
  induction text with
  | nil => rfl
  | cons first rest ih =>
      simp only [List.mem_cons, not_or] at whole
      simp only [split, if_neg (Ne.symm whole.1), ih whole.2]

theorem components_append (front rest : String) :
    components (front ++ "/" ++ rest) = components front ++ components rest := by
  have separated : (front ++ "/" ++ rest).toList = front.toList ++ '/' :: rest.toList := by simp
  unfold components
  rw [separated, split_append, List.map_append]

theorem components_of_notMem {text : String} (whole : '/' ∉ text.toList) :
    components text = [text] := by
  unfold components
  rw [split_of_notMem whole, List.map_singleton, String.ofList_toList]

theorem join_eq {base path : String} (named : base ≠ "")
    (relative : path.toList.head? ≠ some '/') (bare : base.toList.getLast? ≠ some '/') :
    join base path = base ++ "/" ++ path := by
  have slash : "/".toList = ['/'] := rfl
  have starts : path.startsWith "/" = false := by
    rw [String.startsWith_string_eq_false_iff, slash]
    rintro ⟨rest, whole⟩
    rw [← whole] at relative
    exact relative rfl
  have ends : base.endsWith "/" = false := by
    rw [String.endsWith, String.Slice.endsWith_string_eq_false_iff, slash, String.copy_toSlice]
    rintro ⟨front, whole⟩
    rw [← whole] at bare
    exact bare (by simp)
  unfold join
  rw [starts, ends]
  simp [named]

end Files.Path

namespace ContainerName

structure Acceptable (text : String) : Prop where
  named : text ≠ ""
  short : text.toList.length ≤ maximumLength
  whole : '/' ∉ text.toList

theorem fault?_eq_none_iff {text : String} : fault? text.toList = none ↔ Acceptable text := by
  unfold fault?
  constructor
  · intro faultless
    repeat' split at faultless
    · cases faultless
    · cases faultless
    · cases faultless
    · next named short whole =>
        refine ⟨?_, by omega, by simpa using whole⟩
        rintro rfl
        exact named rfl
  · intro acceptable
    have named : text.toList.isEmpty = false := by simpa using acceptable.named
    have short : ¬ text.toList.length > maximumLength := by
      have := acceptable.short
      omega
    have whole : text.toList.contains '/' = false := by simpa using acceptable.whole
    rw [named, whole]
    simp [short]

theorem acceptable_of_ofString? {text : String} {name : ContainerName}
    (accepted : ofString? text = .ok name) : name.text = text ∧ Acceptable text := by
  unfold ofString? at accepted
  split at accepted
  · next faultless =>
      cases accepted
      exact ⟨rfl, fault?_eq_none_iff.mp faultless⟩
  · cases accepted

end ContainerName

namespace BusPath

open Files.Path

theorem containerGroupLink_eq {text : String} (acceptable : ContainerName.Acceptable text) :
    containerGroupLink text = "/sys/bus/fsl-mc/devices" ++ "/" ++ text ++ "/" ++ "iommu_group" := by
  have first : text.toList.head? ≠ some '/' := by
    intro separator
    exact acceptable.whole (List.mem_of_mem_head? separator)
  have last : (devices ++ "/" ++ text).toList.getLast? ≠ some '/' := by
    intro separator
    have filled : text.toList ≠ [] := by simpa using acceptable.named
    rw [String.toList_append, List.getLast?_append_of_ne_nil _ filled] at separator
    exact acceptable.whole (List.mem_of_getLast? separator)
  have inner : join devices text = devices ++ "/" ++ text := join_eq (by decide) first (by decide)
  unfold containerGroupLink
  rw [inner, join_eq (by simp) (by decide) last]
  rfl

theorem components_containerGroupLink {text : String}
    (acceptable : ContainerName.Acceptable text) :
    components (containerGroupLink text) =
      ["", "sys", "bus", "fsl-mc", "devices", text, "iommu_group"] := by
  rw [containerGroupLink_eq acceptable, components_append, components_append,
    components_of_notMem acceptable.whole]
  rfl

theorem resolved_containerGroupLink {text : String}
    (acceptable : ContainerName.Acceptable text) :
    resolved (containerGroupLink text) =
      tread ["sys", "bus", "fsl-mc", "devices"] text ++ ["iommu_group"] := by
  unfold resolved
  rw [components_containerGroupLink acceptable]
  rfl

theorem tread_name {text : String} (named : text ≠ "") (here : text ≠ ".") (up : text ≠ "..")
    (place : Location) : tread place text = place ++ [text] := by
  unfold tread
  simp [named, here, up]

theorem tread_cases {text : String} (named : text ≠ "") {place : Location} (below : place ≠ []) :
    (text = "." ∧ (tread place text).length = place.length) ∨
      (text = ".." ∧ (tread place text).length + 1 = place.length) ∨
        tread place text = place ++ [text] := by
  by_cases here : text = "."
  · subst here
    exact Or.inl ⟨rfl, rfl⟩
  · by_cases up : text = ".."
    · subst up
      have depth : 0 < place.length := List.length_pos_of_ne_nil below
      have shorter : (tread place "..").length = place.length - 1 := List.length_dropLast
      exact Or.inr (Or.inl ⟨rfl, by omega⟩)
    · exact Or.inr (Or.inr (tread_name named here up place))

theorem tread_injective {one other : String} {place : Location} (below : place ≠ [])
    (first : one ≠ "") (second : other ≠ "") (same : tread place one = tread place other) :
    one = other := by
  have left := tread_cases first below
  have right := tread_cases second below
  rw [same] at left
  rcases left with ⟨rfl, leftSize⟩ | ⟨rfl, leftSize⟩ | leftPlace
  · rcases right with ⟨rfl, -⟩ | ⟨-, rightSize⟩ | rightPlace
    · rfl
    · omega
    · simp [rightPlace] at leftSize
  · rcases right with ⟨-, rightSize⟩ | ⟨rfl, -⟩ | rightPlace
    · omega
    · rfl
    · simp only [rightPlace, List.length_append, List.length_singleton] at leftSize
      omega
  · rw [leftPlace] at right
    simp only [List.length_append, List.length_singleton] at right
    rcases right with ⟨-, rightSize⟩ | ⟨-, rightSize⟩ | rightPlace
    · omega
    · omega
    · simpa using rightPlace

/-- The link of an accepted name lies right below the devices under that name, as long as the
name is no step; a single point leads to the devices themselves, and a double point to
what is above them. The links of two names never lead to the same place. -/
theorem links_of_names_stay_apart (text : String) (name : ContainerName)
    (accepted : ContainerName.ofString? text = .ok name) :
    let link := containerGroupLink name.text
    link = "/sys/bus/fsl-mc/devices/" ++ text ++ "/iommu_group" ∧
    (text ≠ "." → text ≠ ".." →
      resolved link = ["sys", "bus", "fsl-mc", "devices", text, "iommu_group"]) ∧
    (text = "." → resolved link = ["sys", "bus", "fsl-mc", "devices", "iommu_group"]) ∧
    (text = ".." → resolved link = ["sys", "bus", "fsl-mc", "iommu_group"]) ∧
    ∀ (another : String) (other : ContainerName),
      ContainerName.ofString? another = .ok other → another ≠ text →
        resolved (containerGroupLink other.text) ≠ resolved link := by
  intro link
  obtain ⟨same, acceptable⟩ := ContainerName.acceptable_of_ofString? accepted
  have place : resolved link = tread ["sys", "bus", "fsl-mc", "devices"] text ++ ["iommu_group"] := by
    change resolved (containerGroupLink name.text) = _
    rw [same]
    exact resolved_containerGroupLink acceptable
  refine ⟨?_, ?_, ?_, ?_, ?_⟩
  · change containerGroupLink name.text = _
    rw [same, containerGroupLink_eq acceptable]
    simp [String.append_assoc]
  · intro here up
    rw [place, tread_name acceptable.named here up]
    rfl
  · rintro rfl
    exact place
  · rintro rfl
    exact place
  · intro another other known different shared
    obtain ⟨otherText, otherAcceptable⟩ := ContainerName.acceptable_of_ofString? known
    rw [place, otherText, resolved_containerGroupLink otherAcceptable] at shared
    have treads := List.append_cancel_right shared
    exact different
      (tread_injective (by simp) otherAcceptable.named acceptable.named treads)

/-- The longest names there are, two of which differ in a point. -/
theorem links_of_names_stay_apart_of_longest :
    ∃ name other : ContainerName, ContainerName.ofString? "....\\ ..é." = .ok name ∧
      ContainerName.ofString? "....\\ ..é" = .ok other ∧
      resolved (containerGroupLink name.text) =
        ["sys", "bus", "fsl-mc", "devices", "....\\ ..é.", "iommu_group"] ∧
      resolved (containerGroupLink other.text) ≠ resolved (containerGroupLink name.text) := by
  have accepted : ContainerName.ofString? "....\\ ..é." = .ok ⟨"....\\ ..é.", by decide⟩ := rfl
  have known : ContainerName.ofString? "....\\ ..é" = .ok ⟨"....\\ ..é", by decide⟩ := rfl
  obtain ⟨-, below, -, -, apart⟩ := links_of_names_stay_apart "....\\ ..é." _ accepted
  exact ⟨_, _, accepted, known, below (by decide) (by decide), apart _ _ known (by decide)⟩

/-- Both steps are names that are accepted, and the link of the step upwards lies above the
devices. -/
theorem a_step_upwards_is_accepted_as_a_name :
    (∃ name, ContainerName.ofString? ".." = .ok name ∧
      resolved (containerGroupLink name.text) = ["sys", "bus", "fsl-mc", "iommu_group"]) ∧
    (∃ name, ContainerName.ofString? "." = .ok name ∧
      resolved (containerGroupLink name.text) =
        ["sys", "bus", "fsl-mc", "devices", "iommu_group"]) ∧
    ¬ ∀ (text : String) (name : ContainerName), ContainerName.ofString? text = .ok name →
        resolved (containerGroupLink name.text) =
          ["sys", "bus", "fsl-mc", "devices", text, "iommu_group"] := by
  have upwards : ContainerName.ofString? ".." = .ok ⟨"..", by decide⟩ := rfl
  have above : resolved (containerGroupLink "..") = ["sys", "bus", "fsl-mc", "iommu_group"] := by
    decide +kernel
  refine ⟨⟨_, upwards, above⟩, ⟨⟨".", by decide⟩, rfl, by decide +kernel⟩, ?_⟩
  intro always
  have below := always ".." _ upwards
  rw [above] at below
  exact absurd below (by decide)

end BusPath

end Passthrough
