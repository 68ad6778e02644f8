import Passthrough.Proofs.Session.Quiet
import Passthrough.Proofs.Yard.Teardown

set_option autoImplicit false

/-! Runs in which nothing is used once it is closed, and nothing is given up twice. Every call
that reaches the machine is in order; and as long as nothing is refused on the way there,
sessions are torn down and dropped, and groups are released, without a failure. -/

namespace Passthrough

open Files (FileTree)

theorem Gate.findSome?_refusal?_allow (calls : List (Operation × Int)) :
    calls.findSome? (fun call => Gate.allow.refusal? call.1) = none :=
  (Gate.allow.findSome?_refusal?_eq_none_iff calls).mpr fun call _ => by
    cases call.1 <;> rfl

theorem Gate.quiet_allow (files : FileTree) :
    (Gate.allow.inFront (Simulator.platform files).journaled).Quiet where
  close _ _ := rfl
  unsetContainer _ _ := rfl
  dropPortal _ _ := rfl

namespace Yard.Tended

variable {base : Simulator} {law : Tile → Prop} {yard : Yard}

theorem ends_well (tended : Tended base law yard) (ungated : yard.gate = .allow) {live : Live}
    (member : live ∈ yard.lives) (log : List Diagnostic) :
    ((live.session.teardown yard.platform).outcome ⟨yard.journal, log⟩).1 = .ok () ∧
      (live.session.drop yard.platform ⟨yard.journal, log⟩).2.log = log := by
  obtain ⟨index, found⟩ := List.mem_iff_getElem?.mp member
  have fit := tended.lives live member
  obtain ⟨accelerator, fitted⟩ := fit.fitted
  obtain ⟨owned, host, houses, -⟩ := fit.handle
  have attempts : yard.platform.Attempts .allow := by
    unfold Yard.platform
    rw [ungated]
    exact Gate.attempts_allow yard.files
  have silent : yard.platform.Quiet := by
    unfold Yard.platform
    rw [ungated]
    exact Gate.quiet_allow yard.files
  have course := (fit.releases attempts (tended.holds_live found).1 fitted log).1
  rw [Gate.findSome?_refusal?_allow, Result.failure?_eq_none_iff] at course
  exact ⟨course, silent.drop fitted houses course⟩

/-- Any handle at all can be released, whatever has become of its group. -/
theorem releases_well (tended : Tended base law yard) (ungated : yard.gate = .allow) {pool : Pool}
    (member : pool ∈ yard.pools) (handle : GroupHandle) (log : List Diagnostic) :
    (pool.release yard.platform handle ⟨yard.journal, log⟩).1.1 = .ok () := by
  have attempts : yard.platform.Attempts .allow := by
    unfold Yard.platform
    rw [ungated]
    exact Gate.attempts_allow yard.files
  cases held : pool.held? handle with
  | none => exact congrArg Prod.fst (Pool.release_unheld yard.platform held yard.journal log).1
  | some owned =>
      obtain ⟨index, found⟩ := List.mem_iff_getElem?.mp member
      have stocked := (tended.holds_pool found).1
      have there := (Pool.at?_of_held? held).1
      obtain ⟨host, live, -⟩ := (tended.pools pool member).housed there
      have stands := stocked.present.left.stands there live
      have course := ((Journal.Given.refl .allow stocked.orderly).releaseGroup attempts
        (tended.pools pool member) ⟨held, live⟩ ⟨_, stands.group⟩ stands.container
        stands.attached (fun _ => List.not_mem_nil) (fun _ => List.not_mem_nil) log).1
      rw [Gate.findSome?_refusal?_allow, Result.failure?_eq_none_iff] at course
      exact course

end Yard.Tended

namespace Yard

theorem gate_step (yard : Yard) {action : Action} (other : ∀ gate, action ≠ .setGate gate) :
    (yard.step action).gate = yard.gate := by
  have used {α : Type} (index : Nat)
      (operation : Pool → Logged (Journal Simulator) (Result α × Pool)) :
      (yard.use index operation).gate = yard.gate := by
    unfold use
    split <;> rfl
  have finished {α : Type} (index : Nat)
      (operation : Session HostAddress → Logged (Journal Simulator) α) :
      (yard.finish index operation).gate = yard.gate := by
    unfold finish
    split <;> rfl
  cases action with
  | acquire index group => exact used index _
  | release index handle => exact used index _
  | start index container =>
      change (yard.start index container).gate = yard.gate
      unfold start
      split <;> rfl
  | operate index task =>
      change (yard.operate index fun session =>
        task.operate yard.platform yard.files session).gate = yard.gate
      unfold operate
      split <;> rfl
  | teardown index => exact finished index _
  | drop index => exact finished index _
  | setGate gate => exact absurd rfl (other gate)
  | _ => rfl

theorem gate_run (yard : Yard) {actions : List Action}
    (other : ∀ gate, .setGate gate ∉ actions) : (yard.run actions).gate = yard.gate := by
  induction actions generalizing yard with
  | nil => rfl
  | cons action rest ih =>
      have unset : (yard.step action).gate = yard.gate :=
        yard.gate_step fun gate same => other gate (same ▸ List.mem_cons_self)
      rw [← unset]
      exact ih (yard.step action) fun gate member => other gate (List.mem_cons_of_mem _ member)

/-- In any run, no call reaches the machine for what is not there. If none is refused on the way,
every session can be ended and every handle released without a failure. -/
theorem run_proper (machine : Simulator) (reachable : machine.Reachable) (files : FileTree)
    (actions : List Action) :
    let yard := (opened machine files).run actions
    yard.journal.Proper ∧
      ((∀ gate, .setGate gate ∉ actions) →
        (∀ live ∈ yard.lives, ∀ log,
          ((live.session.teardown yard.platform).outcome ⟨yard.journal, log⟩).1 = .ok () ∧
            (live.session.drop yard.platform ⟨yard.journal, log⟩).2.log = log) ∧
        ∀ pool ∈ yard.pools, ∀ handle log,
          (pool.release yard.platform handle ⟨yard.journal, log⟩).1.1 = .ok ()) := by
  intro yard
  have tended : Tended machine (fun _ => True) yard :=
    (Tended.opened reachable.orderly trivial files).run (fun _ _ => id) actions
  refine ⟨tended.holds.2.proper, fun other => ?_⟩
  have ungated : yard.gate = .allow := (opened machine files).gate_run other
  refine ⟨?_, ?_⟩
  · exact fun live member log => tended.ends_well ungated member log
  · exact fun pool member handle log => tended.releases_well ungated member handle log

/-- A session on which an operation has failed can be torn down, and a handle that names nothing
can be released. -/
theorem run_proper_of_fault :
    let actions : List Action := [.openPool .standard, .openPool .standard, .start 0 .standard,
      .inject .firmwareOpen, .operate 0 .status]
    let yard := (opened (Tool.demonstration .standard) ⟨[], []⟩).run actions
    yard.journal.Proper ∧
      (∃ live ∈ yard.lives,
        ((live.session.teardown yard.platform).outcome ⟨yard.journal, []⟩).1 = .ok ()) ∧
      ∃ pool ∈ yard.pools, (pool.release yard.platform ⟨0, ⟨7⟩, ⟨3⟩, ⟨4⟩⟩ ⟨yard.journal, []⟩).1.1 =
        .ok () := by
  intro actions yard
  have proper : yard.journal.Proper ∧ ((∀ gate, .setGate gate ∉ actions) →
      (∀ live ∈ yard.lives, ∀ log,
        ((live.session.teardown yard.platform).outcome ⟨yard.journal, log⟩).1 = .ok () ∧
          (live.session.drop yard.platform ⟨yard.journal, log⟩).2.log = log) ∧
      ∀ pool ∈ yard.pools, ∀ handle log,
        (pool.release yard.platform handle ⟨yard.journal, log⟩).1.1 = .ok ()) :=
    run_proper _ (Simulator.reachable_demonstration .standard) ⟨[], []⟩ actions
  have started : (yard.lives[0]?).isSome = true := by decide +kernel
  have left : (yard.pools[0]?).isSome = true := by decide +kernel
  clear_value yard
  obtain ⟨live, found⟩ := Option.isSome_iff_exists.mp started
  obtain ⟨pool, there⟩ := Option.isSome_iff_exists.mp left
  obtain ⟨sessions, pools⟩ := proper.2 (by simp [actions])
  refine ⟨proper.1, ⟨live, List.mem_of_getElem? found, ?_⟩, pool, List.mem_of_getElem? there, ?_⟩
  · exact (sessions live (List.mem_of_getElem? found) []).1
  · exact pools pool (List.mem_of_getElem? there) _ []

end Yard

end Passthrough
