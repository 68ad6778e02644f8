import Passthrough.Proofs.Session.Passing
import Passthrough.Proofs.Session.StartUnwind
import Passthrough.Proofs.Tool.Course

set_option autoImplicit false

/-! The tool leaves nothing behind. Whatever fails on the way, a machine that it was run on has
what it had before, as long as nothing that gives things back is refused and the firmware
hands out tokens that are not in use. -/

namespace Passthrough

open Files (FileTree)

theorem Stocked.passing {lenient : Prop} {base sim after : Simulator} {inventory : Inventory}
    (stocked : Stocked lenient base inventory sim) (passing : sim.Passing after) :
    Stocked lenient { base with lastToken := after.lastToken, sessions := after.sessions }
      inventory after where
  ground := stocked.ground.firmware ⟨rfl, rfl, rfl⟩
  orderly := stocked.orderly.turn
    (.aside passing.descriptors passing.attachments passing.registrations) passing.fresh
  descriptors := passing.descriptors ▸ stocked.descriptors
  attachments := passing.attachments ▸ stocked.attachments
  mappings := passing.mappings ▸ stocked.mappings
  registrations strict := passing.registrations.trans (stocked.registrations strict)
  sessions _ := rfl
  lastToken _ := rfl
  attributes := passing.attributes.trans stocked.attributes

/-- A session that was just started is torn down to what was there before. -/
theorem Session.Begun.restores {World : Type} {platform : Platform World HostAddress}
    {holds : Inventory → World → Prop} {strange : Prop}
    (kept : Inventory.Kept strange holds platform) {pool : Pool} {admission : Pool.Admission}
    {accelerator : DeviceFd} {session : Session HostAddress}
    (begun : session.Begun pool admission accelerator) (sound : pool.Sound)
    {inventory : Inventory} {container : ContainerName} {world : World}
    (held : holds (inventory.withSession admission.tenure container session accelerator) world) :
    (session.teardown platform).Yields world fun _ after => holds inventory after := by
  have houses : session.pool.Houses session.group admission.owned
      (admission.host.adding admission.slot) := by
    rw [begun.pool, begun.group]
    exact begun.admits.houses
  have placed : holds (inventory.withSession (admission.owned.tenure session.group.slot
      (admission.host.adding admission.slot)) container session accelerator) world := by
    rw [begun.group]
    exact (begun.admits.tenure_eq sound).symm ▸ held
  exact kept.tearsDown begun.toFitted houses placed

/-- If a token was handed out between two states, it was not in use before. -/
def Simulator.HandsOutUnused (before after : Simulator) : Prop :=
  after.lastToken ≠ before.lastToken → before.nextToken ∉ before.sessions

namespace Tool

variable {World : Type}

/-- The tokens that are handed out to start a session and to do a task are not in use. -/
structure UnusedTokens (platform : Platform World HostAddress) (machine : World → Simulator)
    (files : FileTree) (container : ContainerName) (task : Task) (start : Traced World) :
    Prop where
  starting : (machine start.world).HandsOutUnused (machine (begun platform container start).2.world)
  working : ∀ session, (begun platform container start).1 = .ok session →
    (machine (begun platform container start).2.world).HandsOutUnused
      (machine (performed platform files container task start session).2.world)

variable {platform : Platform World HostAddress} {machine : World → Simulator}
  {files : FileTree} {refusable : Operation → Prop}

/-- A task leaves a new session such that tearing it down takes away just what starting it had
added. -/
theorem works (hosts : platform.Hosts machine files refusable)
    (closes : ∀ kind, ¬ refusable (.closeKind kind)) (unmaps : ¬ refusable .unmap)
    (unregisters : ¬ refusable .unmapDma) {pool : Pool} {admission : Pool.Admission}
    {accelerator : DeviceFd} {session : Session HostAddress}
    (begun : session.Begun pool admission accelerator) (sound : pool.Sound) {base : Simulator}
    {container : ContainerName} {world : World}
    (stocked : Stocked False base
      (Inventory.empty.withSession admission.tenure container session accelerator)
      (machine world)) (task : Task) :
    (task.operate platform files session).Yields world fun outcome after =>
      (machine world).Passing (machine after) ∧
        (outcome.2.teardown platform).Yields after fun _ left =>
          Simulator.Untouched
            { base with
              lastToken := (machine after).lastToken
              sessions := (machine after).sessions }
            (machine left) := by
  refine (hosts.toFronts.passes begun.atRest (closes .file) unmaps unregisters task
    stocked.orderly.fresh).mono ?_
  rintro ⟨result, left⟩ after ⟨passing, rfl⟩
  refine ⟨passing, ?_⟩
  exact (begun.restores (hosts.keepsStock closes _) sound (stocked.passing passing)).mono
    fun _ _ stocked => stocked.untouched

theorem run_restores (hosts : platform.Hosts machine files refusable)
    (closes : ∀ kind, ¬ refusable (.closeKind kind)) (unmaps : ¬ refusable .unmap)
    (unregisters : ¬ refusable .unmapDma) {container : ContainerName} {task : Task}
    {start : Traced World} (orderly : (machine start.world).Orderly)
    (unused : UnusedTokens platform machine files container task start) :
    (machine start.world).Untouched
      (machine (run platform files container task start).2.world) := by
  have sound := Pool.sound_empty .standard
  have course := hosts.starts closes sound (.refl orderly) container (fun _ _ => rfl) start.log
  cases came : (begun platform container start).1 with
  | error cause =>
      rw [run_of_unbound came]
      rw [show ((Session.start platform (Pool.empty .standard) container).outcome start).1 = _
        from came] at course
      exact course.untouched
  | ok session =>
      rw [run_of_bound came]
      rw [show ((Session.start platform (Pool.empty .standard) container).outcome start).1 = _
        from came] at course
      obtain ⟨admission, accelerator, bound, -, sessions, lastToken, stocked⟩ := course
      have visit : (machine start.world).Visit
          (machine (begun platform container start).2.world) := Or.inr ⟨sessions, lastToken⟩
      obtain ⟨passing, tears⟩ := works hosts closes unmaps unregisters bound sound stocked task
        (begun platform container start).2.log
      have left := tears (performed platform files container task start session).2.log
      refine ⟨left.descriptors, left.attachments, left.mappings, left.registrations, ?_⟩
      refine left.sessions.trans ?_
      exact (passing.visit.restored (unused.working session came)).trans
        (visit.restored unused.starting)

/-- On any platform the tool tears down what it has started, and reports the first failure. On a
machine where nothing that gives things back is refused, it leaves what was there before. -/
theorem run_releases_tile (files : FileTree) (container : ContainerName) (task : Task) :
    (∀ (World Portal : Type) (platform : Platform World Portal) (start : Traced World),
      Course platform files container task start (run platform files container task start)) ∧
    ∀ (World : Type) (platform : Platform World HostAddress) (machine : World → Simulator)
      (refusable : Operation → Prop), platform.Hosts machine files refusable →
      (∀ kind, ¬ refusable (.closeKind kind)) → ¬ refusable .unmap → ¬ refusable .unmapDma →
      ∀ start : Traced World, (machine start.world).Reachable →
        UnusedTokens platform machine files container task start →
        (machine start.world).Untouched
          (machine (run platform files container task start).2.world) := by
  refine ⟨fun _ _ _ _ => run_course, ?_⟩
  intro World platform machine refusable hosts closes unmaps unregisters start reachable unused
  exact run_restores hosts closes unmaps unregisters reachable.orderly unused

/-- Where detaching is refused, the tool fails after a task that has succeeded; nothing is left
behind all the same. -/
theorem run_releases_tile_of_refused_detach :
    let platform := (Gate.allow.refuse .unsetContainer).inFront (Simulator.platform ⟨[], []⟩)
    let machine := demonstration .standard
    let task := Task.setTimeOfDay 7
    let ended := run platform ⟨[], []⟩ .standard task ⟨machine, []⟩
    ended.1.result.toBool = false ∧
      (∃ session, (begun platform .standard ⟨machine, []⟩).1 = .ok session ∧ ∃ value,
        (performed platform ⟨[], []⟩ .standard task ⟨machine, []⟩ session).1.1 = .ok value) ∧
      machine.Untouched ended.2.world := by
  intro platform machine task ended
  obtain ⟨reports, restores⟩ := run_releases_tile ⟨[], []⟩ .standard task
  have hosts : platform.Hosts id ⟨[], []⟩ fun operation =>
      False ∨ (Gate.allow.refuse .unsetContainer).denies operation = true :=
    Gate.hosts_inFront _ (Simulator.hosts_platform ⟨[], []⟩)
  have unused : UnusedTokens platform id ⟨[], []⟩ .standard task ⟨machine, []⟩ := by
    have next : (begun platform .standard ⟨machine, []⟩).2.world.nextToken ∉
        (begun platform .standard ⟨machine, []⟩).2.world.sessions := by decide +kernel
    constructor
    · exact fun _ => Std.ExtTreeSet.not_mem_empty
    · simp only [id_eq]
      exact fun _ _ _ => next
  have outcome (ended : Outcome × Traced Simulator)
      (same : run platform ⟨[], []⟩ .standard task ⟨machine, []⟩ = ended) :
      Course platform ⟨[], []⟩ .standard task ⟨machine, []⟩ ended ∧
        machine.Untouched ended.2.world := by
    have untouched := restores Simulator platform id _ hosts
      (fun kind => by cases kind <;> decide) (by decide) (by decide) ⟨machine, []⟩
      (Simulator.reachable_demonstration .standard) unused
    rw [same] at untouched
    exact ⟨same ▸ reports Simulator HostAddress platform ⟨machine, []⟩, untouched⟩
  have fails : ended.1.result.toBool = false := by decide +kernel
  have printed : ended.1.lines = ["Time of day set to 7."] := by decide +kernel
  obtain ⟨course, untouched⟩ := outcome ended rfl
  clear_value ended
  refine ⟨fails, course.praised.mp ⟨(), ?_⟩, untouched⟩
  rw [printed]
  exact List.mem_singleton.mpr rfl

end Tool

end Passthrough
