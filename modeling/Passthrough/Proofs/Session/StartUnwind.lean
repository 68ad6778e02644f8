import Passthrough.Proofs.Pool.History
import Passthrough.Proofs.Stock.SessionStart

set_option autoImplicit false

/-! Starting a session is all or nothing. On any machine that can be reached, with any pool
that does not own the group yet and whatever else is refused, a start that fails leaves
all tables of the machine as they were, provided that closing is never refused; one that
succeeds adds exactly what the session then holds. -/

namespace Passthrough

open Pool.SlotTable (at?)
open Simulator (OpenObject)

variable {World : Type}

/-- What is open, attached, mapped, registered and in session is the same. -/
structure Simulator.Untouched (before after : Simulator) : Prop where
  descriptors : after.descriptors = before.descriptors
  attachments : after.attachments = before.attachments
  mappings : after.mappings = before.mappings
  registrations : after.registrations = before.registrations
  sessions : after.sessions = before.sessions

theorem Stocked.untouched {base sim : Simulator} (stocked : Stocked False base .empty sim) :
    base.Untouched sim where
  descriptors := stocked.descriptors.eq_base id
  attachments := stocked.attachments.eq_base id
  mappings := stocked.mappings.eq_base id
  registrations := stocked.registrations id
  sessions := stocked.sessions id

namespace Session

/-- Whether the session's group is in a container that was opened for it, which is then the only
group there. -/
def OwnContainer (session : Session HostAddress) (pool : Pool) : Prop :=
  ∃ index, at? pool.containers index = none ∧
    at? session.pool.containers index =
      some { descriptor := session.group.container, members := [session.group.slot] }

/-- Whether it joined a live container of the pool, which goes on with one more group. -/
def JoinedContainer (session : Session HostAddress) (pool : Pool) : Prop :=
  ∃ index host, at? pool.containers index = some host ∧
    host.descriptor = session.group.container ∧
    at? session.pool.containers index = some (host.adding session.group.slot)

def objects (session : Session HostAddress) (container : ContainerName)
    (accelerator : DeviceFd) (own : List (Int × OpenObject)) : List (Int × OpenObject) :=
  [ (accelerator.number, .device session.devices.accelerator.name)
  , (session.containerDevice.number, .device container.text) ] ++ own ++
    [(session.group.descriptor.number, .group session.group.group)]

/-- What a session that has started added to a machine. -/
structure Adds (session : Session HostAddress) (pool : Pool) (container : ContainerName)
    (before after : Simulator) : Prop where
  descriptors : ∃ accelerator, session.devices.accelerator.descriptor = some accelerator ∧
    (session.OwnContainer pool ∧
        Comprises False before.descriptors
          (session.objects container accelerator
            [(session.group.container.number, .container true)]) after.descriptors ∨
      session.JoinedContainer pool ∧
        Comprises False before.descriptors (session.objects container accelerator [])
          after.descriptors)
  companion : session.devices.companion.descriptor = none
  attachments : Comprises False before.attachments
    [(session.group.descriptor.number, session.group.container.number)] after.attachments
  mappings : Comprises False before.mappings
    [(session.portal.value, Simulator.portalLength)] after.mappings
  registrations : after.registrations = before.registrations
  sessions : before.nextToken ∉ before.sessions → after.sessions = before.sessions
  tokens : ∀ token ∈ after.sessions, token ∈ before.sessions

variable {pool : Pool} {container : ContainerName} {admission : Pool.Admission}
  {accelerator : DeviceFd} {session : Session HostAddress}

theorem Begun.ownContainer (begun : session.Begun pool admission accelerator)
    (free : Pool.SlotTable.vacant? pool.containers pool.limits.containers =
      some admission.owned.container)
    (fresh : admission.host.members = []) : session.OwnContainer pool := by
  refine ⟨admission.owned.container, (Pool.SlotTable.vacant?_spec free).1, ?_⟩
  rw [begun.pool, begun.admits.at?_containers, if_pos rfl, begun.group]
  unfold ContainerSlot.adding
  rw [fresh]
  rfl

theorem Begun.joinedContainer (begun : session.Begun pool admission accelerator)
    (roomy : (admission.owned.container, admission.host) ∈ pool.roomy) :
    session.JoinedContainer pool := by
  refine ⟨admission.owned.container, admission.host, (Pool.mem_roomy.mp roomy).1, ?_, ?_⟩
  · rw [begun.group]
    rfl
  · rw [begun.pool, begun.admits.at?_containers, if_pos rfl, begun.group]
    rfl

theorem Begun.adds (begun : session.Begun pool admission accelerator) (sound : pool.Sound)
    {before after : Simulator}
    (sessions :
      after.sessions = (before.sessions.insert before.nextToken).erase before.nextToken)
    (stocked : Stocked False
      { before with lastToken := after.lastToken, sessions := after.sessions }
      (Inventory.empty.withSession admission.tenure container session accelerator) after) :
    session.Adds pool container before after := by
  have descriptors := stocked.descriptors
  have attachments := stocked.attachments
  unfold Inventory.withSession Pool.Admission.tenure at descriptors attachments
  rw [show admission.owned.descriptor = session.group.descriptor by rw [begun.group]; rfl,
    show admission.owned.group = session.group.group by rw [begun.group]; rfl,
    show admission.host.descriptor = session.group.container by rw [begun.group]; rfl]
    at descriptors attachments
  refine {
    descriptors := ⟨accelerator, begun.opened, ?_⟩
    companion := begun.companion
    attachments := attachments
    mappings := stocked.mappings
    registrations := stocked.registrations id
    sessions := fun unused => sessions.trans (Simulator.erase_insert_session _ _ unused)
    tokens := ?_ }
  · rcases begun.admits.host with roomy | ⟨free, fresh, -⟩
    · have shared : admission.host.members ≠ [] :=
        sound.inhabited (Pool.mem_roomy.mp roomy).1
      rw [if_neg shared] at descriptors
      exact Or.inr ⟨begun.joinedContainer roomy, descriptors⟩
    · rw [if_pos fresh] at descriptors
      exact Or.inl ⟨begun.ownContainer free fresh, descriptors⟩
  · intro token kept
    rw [sessions, Std.ExtTreeSet.mem_erase, Std.ExtTreeSet.mem_insert] at kept
    exact kept.2.resolve_left kept.1

end Session

/-- Either a session has started and holds what was added, or nothing was. -/
theorem start_all_or_nothing (platform : Platform World HostAddress) (machine : World → Simulator)
    (files : Files.FileTree) (refusable : Operation → Prop)
    (hosts : platform.Hosts machine files refusable)
    (closes : ∀ kind, ¬ refusable (.closeKind kind)) (limits : PoolLimits) (pool : Pool)
    (attained : Pool.Attained limits pool) (container : ContainerName) (start : Traced World)
    (reachable : (machine start.world).Reachable)
    (unheld : ∀ slot owned, at? pool.groups slot = some owned →
      (machine start.world).containerGroup container ≠ .ok owned.group) :
    let outcome := (Session.start platform pool container).outcome start
    (∀ session, outcome.1 = .ok session →
        session.Adds pool container (machine start.world) (machine outcome.2.world)) ∧
      ∀ failure, outcome.1 = .error failure →
        (machine start.world).Untouched (machine outcome.2.world) := by
  have sound := attained.sound.1
  have unknown : ∀ group, (machine start.world).containerGroup container = .ok group →
      pool.handleOf? group = none := by
    intro group found
    refine sound.handleOf?_eq_none_iff.mpr fun slot owned known same => ?_
    exact unheld slot owned known (same ▸ found)
  have course := hosts.starts closes sound (.refl reachable.orderly) container unknown start.log
  intro outcome
  refine ⟨fun session started => ?_, fun failure failed => ?_⟩
  · rw [show ((Session.start platform pool container).outcome start).1 = _ from started] at course
    obtain ⟨admission, accelerator, begun, -, sessions, -, stocked⟩ := course
    exact begun.adds sound sessions stocked
  · rw [show ((Session.start platform pool container).outcome start).1 = _ from failed] at course
    exact course.untouched

theorem start_all_or_nothing_of_shared_container :
    let limits : PoolLimits := { groups := 2, containers := 1, groupsPerContainer := 2 }
    let pool : Pool :=
      { limits := limits
        groups := [some { descriptor := ⟨3⟩, group := ⟨1⟩, container := 0 }]
        containers := [some { descriptor := ⟨4⟩, members := [0] }] }
    let platform := Simulator.platform ⟨[], []⟩
    let known := (Tool.demonstration .standard).withContainer "dprc.3" ⟨1⟩ []
    let opened := (known.openGroup ⟨1⟩).2.openContainer.2
    let machine := ((opened.setContainer ⟨3⟩ ⟨4⟩).2.setIommu ⟨4⟩).2
    let joined := (Session.start ((Gate.allow.refuse .openContainer).inFront platform) pool
      .standard).outcome ⟨machine, []⟩
    let failed := (Session.start ((Gate.allow.refuse .mapPortal).inFront platform) pool
      .standard).outcome ⟨machine, []⟩
    (∃ session, joined.1 = .ok session ∧ session.Adds pool .standard machine joined.2.world) ∧
      failed.1.toBool = false ∧ machine.Untouched failed.2.world := by
  intro limits pool platform known opened machine joined failed
  have reachable : machine.Reachable :=
    ((((((Simulator.reachable_demonstration .standard).step (.withContainer _ _ _)).step
      (.openGroup _)).step .openContainer).step (.setContainer _ _)).step (.setIommu _))
  have attained : Pool.Attained limits pool := by
    have unused : Pool.Attained limits (Pool.empty limits) := .empty
    have taken := unused.acquire platform ⟨1⟩ ⟨known, []⟩
    have same : ((Pool.empty limits).acquire platform ⟨1⟩ ⟨known, []⟩).1.2 = pool := by
      decide +kernel
    rwa [same] at taken
  have unheld : ∀ slot owned, at? pool.groups slot = some owned →
      machine.containerGroup .standard ≠ .ok owned.group := by
    have located : machine.containerGroup .standard = .ok ⟨0⟩ := by decide +kernel
    intro slot owned found
    cases slot with
    | zero =>
        cases found
        rw [located]
        exact nofun
    | succ _ => cases found
  have outcomes (gate : Gate) (closes : ∀ kind, gate.denies (.closeKind kind) = false)
      (outcome : Result (Session HostAddress) × Traced Simulator)
      (same : (Session.start (gate.inFront platform) pool .standard).outcome ⟨machine, []⟩ =
        outcome) :
      (∀ session, outcome.1 = .ok session →
          session.Adds pool .standard machine outcome.2.world) ∧
        ∀ failure, outcome.1 = .error failure → machine.Untouched outcome.2.world := by
    rw [← same]
    refine start_all_or_nothing (gate.inFront platform) id ⟨[], []⟩ _
      (gate.hosts_inFront (Simulator.hosts_platform ⟨[], []⟩)) ?_ limits pool attained .standard
      ⟨machine, []⟩ reachable unheld
    rintro kind (impossible | denied)
    · exact impossible
    · rw [closes kind] at denied
      cases denied
  have joins : joined.1.toBool = true := by decide +kernel
  have fails : failed.1.toBool = false := by decide +kernel
  have adds := (outcomes (Gate.allow.refuse .openContainer)
    (fun kind => by cases kind <;> rfl) joined rfl).1
  have untouched := (outcomes (Gate.allow.refuse .mapPortal)
    (fun kind => by cases kind <;> rfl) failed rfl).2
  clear_value joined failed
  refine ⟨?_, fails, ?_⟩
  · rcases joined with ⟨_ | session, left⟩
    · cases joins
    · exact ⟨session, rfl, adds session rfl⟩
  · rcases failed with ⟨failure | _, left⟩
    · exact untouched failure rfl
    · cases fails

end Passthrough
