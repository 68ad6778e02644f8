import Passthrough.Platform.Gate
import Passthrough.Proofs.Action.Yields
import Passthrough.Proofs.Simulator.PortalService
import Passthrough.Simulator.Platform

set_option autoImplicit false

/-! Platforms that stand in front of a simulated machine. Each operation that a load
uses either acts on the machine or, where the operation can be refused, fails
without reaching it. Nothing is assumed of how a refusal is decided: it may differ
from call to call. Firmware calls always pass. -/

namespace Passthrough

open Files (FileTree)

section

variable {World Portal α : Type}

def Act.Follows (machine : World → Simulator) (refusable : Prop) (action : Act World α)
    (step : Simulator → Result α × Simulator) : Prop :=
  ∀ world, action.Yields world fun result after =>
    (result, machine after) = step (machine world) ∨
      refusable ∧ (∃ failure, result = .error failure) ∧ machine after = machine world

theorem Act.Follows.exactly {machine : World → Simulator} {action : Act World α}
    {step : Simulator → Result α × Simulator} (follows : action.Follows machine False step)
    (world : World) {after : Result α → Simulator → Prop}
    (known : after (step (machine world)).1 (step (machine world)).2) :
    action.Yields world fun result reached => after result (machine reached) := by
  refine (follows world).mono ?_
  rintro result reached (same | ⟨impossible, -⟩)
  · rw [← same] at known
    exact known
  · exact impossible.elim

/-- The operations of a load, each in front of the machine. -/
structure Platform.Fronts (platform : Platform World Portal) (machine : World → Simulator)
    (files : FileTree) (refusable : Operation → Prop) : Prop where
  openFile : ∀ path, (platform.openFile path).Follows machine (refusable .openFile)
    fun sim => Simulator.openFile files sim path
  mapFile : ∀ file length, (platform.mapFile file length).Follows machine (refusable .mapFile)
    fun sim => sim.mapFile file length
  mapDevice : ∀ device offset length,
    (platform.mapDevice device offset length).Follows machine (refusable .mapDevice)
      fun sim => sim.mapDevice device offset length
  mapDma : ∀ container host device length,
    (platform.mapDma container host device length).Follows machine (refusable .mapDma)
      fun sim => sim.mapDma container host device length
  unmapDma : ∀ container device length,
    (platform.unmapDma container device length).Follows machine (refusable .unmapDma)
      fun sim => sim.unmapDma container device length
  unmap : ∀ address length, (platform.unmap address length).Follows machine (refusable .unmap)
    fun sim => sim.unmap address length
  closeFile : ∀ file : FileFd, (platform.close file).Follows machine (refusable (.closeKind .file))
    fun sim => sim.close file.number
  request : ∀ portal call world, (platform.request portal call).Yields world fun result after =>
    result = Simulator.told call ((machine world).serve call).1 ∧
      ∃ portals, machine after = ((machine world).serve call).2.withPortals portals

namespace Gate

/-- Whether a gate can refuse an operation; closing one kind is refused with closing as a whole. -/
def denies (gate : Gate) : Operation → Bool
  | .closeKind kind => gate.refuses .close || gate.refuses (.closeKind kind)
  | operation => gate.refuses operation

theorem denies_closing (gate : Gate) (kind : DescriptorKind)
    (refused : gate.refuses (gate.closing kind) = true) :
    gate.denies (.closeKind kind) = true := by
  unfold closing at refused
  by_cases whole : gate.refuses .close = true
  · simp [denies, whole]
  · rw [if_neg whole] at refused
    simp [denies, refused]

theorem follows_guard (gate : Gate) {operation : Operation} {machine : World → Simulator}
    {refusable denied : Prop} {action : Act World α} {step : Simulator → Result α × Simulator}
    (denies : gate.refuses operation = true → denied)
    (follows : action.Follows machine refusable step) :
    (gate.guard operation action).Follows machine (refusable ∨ denied) step := by
  intro world
  unfold guard
  by_cases refused : gate.refuses operation = true
  · rw [if_pos refused]
    exact Act.Yields.throw (Or.inr ⟨Or.inr (denies refused), ⟨_, rfl⟩, rfl⟩)
  · rw [if_neg refused]
    refine (follows world).mono fun result after came => ?_
    exact came.imp_right fun ⟨allowed, failed, same⟩ => ⟨Or.inl allowed, failed, same⟩

/-- A gate in front of a platform that stands in front of a machine stands in front of it too. -/
theorem fronts_inFront (gate : Gate) {platform : Platform World Portal}
    {machine : World → Simulator} {files : FileTree} {refusable : Operation → Prop}
    (fronts : platform.Fronts machine files refusable) :
    (gate.inFront platform).Fronts machine files
      fun operation => refusable operation ∨ gate.denies operation = true where
  openFile path := follows_guard gate id (fronts.openFile path)
  mapFile file length := follows_guard gate id (fronts.mapFile file length)
  mapDevice device offset length := follows_guard gate id (fronts.mapDevice device offset length)
  mapDma container host device length :=
    follows_guard gate id (fronts.mapDma container host device length)
  unmapDma container device length :=
    follows_guard gate id (fronts.unmapDma container device length)
  unmap address length := follows_guard gate id (fronts.unmap address length)
  closeFile file := follows_guard gate (gate.denies_closing .file) (fronts.closeFile file)
  request := fronts.request

end Gate

end

theorem Simulator.follows_ofWorld {α : Type} (step : Simulator → Result α × Simulator) :
    (Act.ofWorld step).Follows id False step :=
  fun _ _ => Or.inl rfl

theorem Simulator.fronts_platformWith (files : FileTree) (poll : Portal.PollConfig)
    (patient : 0 < poll.maximumPolls.toNat) :
    (Simulator.platformWith files poll).Fronts id files fun _ => False where
  openFile _ := follows_ofWorld _
  mapFile _ _ := follows_ofWorld _
  mapDevice _ _ _ := follows_ofWorld _
  mapDma _ _ _ _ := follows_ofWorld _
  unmapDma _ _ _ := follows_ofWorld _
  unmap _ _ := follows_ofWorld _
  closeFile _ := follows_ofWorld _
  request portal call sim := by
    obtain ⟨portals, served, -⟩ := Simulator.request_registers portal poll patient call sim
    intro _
    change ((Simulator.registers portal).request poll call sim).1 = _ ∧
      ∃ portals, ((Simulator.registers portal).request poll call sim).2 = _
    rw [served]
    exact ⟨rfl, portals, rfl⟩

theorem Simulator.fronts_platform (files : FileTree) :
    (Simulator.platform files).Fronts id files fun _ => False :=
  Simulator.fronts_platformWith files .standard (by decide)

end Passthrough
