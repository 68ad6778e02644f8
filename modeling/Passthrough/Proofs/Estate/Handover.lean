import Passthrough.Proofs.Estate.Run
import Passthrough.Proofs.Station.Owns
import Passthrough.Proofs.Stock.SessionStart

set_option autoImplicit false

/-! A pool that is handed over. A session takes along the pool that it is started with, whatever
groups are in it by then, and gives back one of them only, its own. When it ends, or when
it does not start, the others stay open and attached, and the pool that could have released
them is gone. -/

namespace Passthrough.Estate

open Files (FileTree)
open Simulator (OpenObject)

/-- A session with the pool that was handed over to it, and the estate without that pool. -/
structure Handover where
  estate : Estate
  session : Session HostAddress

inductive Occasion where
  | operate (task : Tool.Task)
  | inject (fault : Fault)
  | clearFaults
  | setViable (group : GroupId) (viable : Bool)
  | setApiVersion (version : Int)
  | setFiles (files : FileTree)

/-- Starts a session with a pool. In any case the pool is gone from the estate. -/
def handOver (estate : Estate) (index : Nat) (pool : Pool) (container : ContainerName) :
    Result (Session HostAddress) × Estate :=
  let ended := (Session.start estate.platform pool container).outcome ⟨estate.machine, []⟩
  (ended.1, { estate with machine := ended.2.world, pools := estate.pools.eraseIdx index })

def withPool (estate : Estate) (pool : Pool) : Estate :=
  { estate with pools := pool :: estate.pools }

namespace Handover

variable {α : Type}

def control (handover : Handover) (change : Simulator → Simulator) : Handover :=
  { handover with estate := handover.estate.control change }

def operate (handover : Handover) (task : Tool.Task) : Handover :=
  let estate := handover.estate
  let ended := task.operate estate.platform estate.files handover.session ⟨estate.machine, []⟩
  { estate := { estate with machine := ended.2.world }, session := ended.1.2 }

def step (handover : Handover) : Occasion → Handover
  | .operate task => handover.operate task
  | .inject fault => handover.control (·.inject fault)
  | .clearFaults => handover.control (·.clearFaults)
  | .setViable group viable => handover.control (·.setViable group viable)
  | .setApiVersion version => handover.control (·.setApiVersion version)
  | .setFiles files => { handover with estate := { handover.estate with files := files } }

def run (handover : Handover) (occasions : List Occasion) : Handover :=
  occasions.foldl step handover

def finish (handover : Handover) (operation : Session HostAddress → Logged Simulator α) :
    Estate :=
  { handover.estate with
    machine := (operation handover.session ⟨handover.estate.machine, []⟩).2.world }

def teardown (handover : Handover) : Estate :=
  handover.finish (Act.outcome <| ·.teardown handover.estate.platform)

def drop (handover : Handover) : Estate :=
  handover.finish (·.drop handover.estate.platform)

/-- A session between operations. The machine holds what its pool holds, its own objects and what
the other pools hold. -/
structure Settled (attributes : TileAttributes) (container : ContainerName)
    (session : Session HostAddress) (handover : Handover) : Prop where
  same : handover.session = session
  sound : session.pool.Sound
  handle : session.pool.HasHandle session.group
  owns : ∃ accelerator, session.Fitted accelerator ∧
    Owns attributes ((session.pool.stock.beside (.ofPools handover.estate.pools)).withDevices
      container session accelerator) handover.estate.machine
  others : ∀ pool ∈ handover.estate.pools, pool.Sound

namespace Settled

variable {attributes : TileAttributes} {container : ContainerName}
  {session : Session HostAddress} {handover : Handover}

theorem control (settled : Settled attributes container session handover)
    (change : Simulator → Simulator)
    (control : Simulator.Control handover.estate.machine (change handover.estate.machine)) :
    Settled attributes container session (handover.control change) := by
  obtain ⟨accelerator, fitted, owns⟩ := settled.owns
  exact { settled with owns := ⟨accelerator, fitted, owns.control control⟩ }

theorem operate (settled : Settled attributes container session handover) (task : Tool.Task) :
    Settled attributes container session (handover.operate task) := by
  obtain ⟨rfl, sound, handle, ⟨accelerator, fitted, owns⟩, others⟩ := settled
  obtain ⟨passing, same⟩ := (Simulator.fronts_platform handover.estate.files).passes fitted.atRest
    id id id task owns.fresh []
  exact ⟨same, sound, handle, ⟨accelerator, fitted, owns.passing passing⟩, others⟩

theorem step (settled : Settled attributes container session handover) (occasion : Occasion) :
    Settled attributes container session (handover.step occasion) := by
  cases occasion with
  | operate task => exact settled.operate task
  | inject fault => exact settled.control (·.inject fault) (Simulator.control_inject _ fault)
  | clearFaults => exact settled.control (·.clearFaults) (Simulator.control_clearFaults _)
  | setViable group viable =>
      exact settled.control (·.setViable group viable)
        (Simulator.control_setViable _ group viable)
  | setApiVersion version =>
      exact settled.control (·.setApiVersion version) (Simulator.control_setApiVersion _ version)
  | setFiles files =>
      exact ⟨settled.same, settled.sound, settled.handle, settled.owns, settled.others⟩

theorem run (settled : Settled attributes container session handover)
    (occasions : List Occasion) :
    Settled attributes container session (handover.run occasions) := by
  induction occasions generalizing handover with
  | nil => exact settled
  | cons occasion rest ih => exact ih (settled.step occasion)

end Settled

end Handover

variable {attributes : TileAttributes} {estate : Estate}

theorem agreement_of_owns (owns : Owns attributes (.ofPools estate.pools) estate.machine)
    (sound : ∀ pool ∈ estate.pools, pool.Sound) : estate.Agreement := by
  have accounted : Accounted estate.machine.blank estate := ⟨owns.stocked, sound⟩
  exact accounted.agreement estate.machine.blank_holdsNothing

theorem agreement_withPool {left : Pool}
    (owns : Owns attributes (left.stock.beside (.ofPools estate.pools)) estate.machine)
    (sound : left.Sound) (others : ∀ pool ∈ estate.pools, pool.Sound) :
    (estate.withPool left).Agreement := by
  refine agreement_of_owns owns fun pool member => ?_
  rcases List.mem_cons.mp member with rfl | old
  · exact sound
  · exact others pool old

theorem Handover.Settled.ends {container : ContainerName} {session : Session HostAddress}
    {handover : Handover} (settled : Settled attributes container session handover) :
    ∃ left : Pool, session.pool.Without session.group.group left ∧
      (handover.teardown.withPool left).Agreement ∧ (handover.drop.withPool left).Agreement := by
  obtain ⟨rfl, sound, handle, ⟨accelerator, fitted, owns⟩, others⟩ := settled
  have kept := (Simulator.hosts_platform handover.estate.files).keepsStock (fun _ => id)
    handover.estate.machine.blank
  obtain ⟨left, whole, without, torn, dropped⟩ :=
    kept.endsBeside sound handle fitted owns.stocked
  refine ⟨left, without, ?_, ?_⟩
  · exact agreement_withPool (owns.moved (torn [])) whole others
  · exact agreement_withPool (owns.moved (dropped [])) whole others

/-- A session that starts is settled with its pool, which holds what it held and the session's
group. Otherwise the pool is left as it was, or without the group of the container. -/
theorem handOver_spec (owns : Owns attributes (.ofPools estate.pools) estate.machine)
    (sound : ∀ pool ∈ estate.pools, pool.Sound) {index : Nat} {pool : Pool}
    (found : estate.pools[index]? = some pool) (container : ContainerName) :
    (estate.handOver index pool container).1.Either
      (fun session => pool.SameBut session.pool session.group.group ∧
        Handover.Settled attributes container session
          ⟨(estate.handOver index pool container).2, session⟩)
      (∃ left : Pool, (left = pool ∨ ∃ group, estate.machine.containerGroup container = .ok group ∧
          pool.Without group left) ∧
        ((estate.handOver index pool container).2.withPool left).Agreement) := by
  have others (other : Pool) (member : other ∈ estate.pools.eraseIdx index) : other.Sound :=
    sound other (List.mem_of_mem_eraseIdx member)
  have hosts := Simulator.hosts_platform estate.files
  have stocked := owns.stocked.perm (Inventory.ofPools_select found)
  have locates : (estate.platform.containerGroup container).Yields estate.machine fun result _ =>
      ∀ group, result = .ok group → estate.machine.containerGroup container = .ok group := by
    refine (hosts.containerGroup container estate.machine).mono ?_
    rintro result after (same | ⟨impossible, -⟩)
    · exact fun group found => (congrArg Prod.fst same).symm.trans found
    · exact impossible.elim
  have course := (hosts.keepsStock (fun _ => id) estate.machine.blank).startsBeside
    (sound pool (List.mem_of_getElem? found)) stocked container _ locates
    (fun accelerator session after => Owns attributes
      ((session.pool.stock.beside (.ofPools (estate.pools.eraseIdx index))).withDevices container
        session accelerator) after) ?_ []
  · refine course.imp ?_ ?_
    · rintro session ⟨whole, handle, shared, accelerator, fitted, owned⟩
      exact ⟨shared, rfl, whole, handle, ⟨accelerator, fitted, owned⟩, others⟩
    · rintro ⟨left, whole, known, kept⟩
      exact ⟨left, known, agreement_withPool (owns.moved kept) whole others⟩
  · intro accelerator session reached held
    refine (hosts.probesStocked held session).mono ?_
    intro result after known
    refine known.imp ?_ id
    rintro _ ⟨-, sessions, -, stocked⟩
    have closed : after.sessions = ∅ :=
      sessions.trans (Simulator.erase_insert_session _ _ Std.ExtTreeSet.not_mem_empty)
    rw [← owns.attributes]
    exact stocked.owns { estate.machine.blank_holdsNothing with sessions := closed }

/-- A session gives back one group of its pool only, whatever it was used for in between and
whatever failed. The other groups that the pool held when it was handed over are open and
attached as though a pool were left that holds them. -/
theorem other_groups_stay_open (machine : Simulator) (files : FileTree) (limits : List PoolLimits)
    (reachable : machine.Reachable) (nothing : machine.holdings.isEmpty = true)
    (actions : List Action) (index : Nat) (pool : Pool) (container : ContainerName) :
    let estate := (opened machine files limits).run actions
    let handed := estate.handOver index pool container
    estate.pools[index]? = some pool →
      (∀ session occasions, handed.1 = .ok session →
        ∃ left : Pool, pool.Without session.group.group left ∧
          ((Handover.run ⟨handed.2, session⟩ occasions).teardown.withPool left).Agreement ∧
          ((Handover.run ⟨handed.2, session⟩ occasions).drop.withPool left).Agreement) ∧
      ∀ failure, handed.1 = .error failure →
        ∃ left : Pool, (left = pool ∨ ∃ group,
          estate.machine.containerGroup container = .ok group ∧ pool.Without group left) ∧
            (handed.2.withPool left).Agreement := by
  intro estate handed found
  have accounted : Accounted machine estate :=
    (Accounted.opened reachable.orderly files limits).run actions
  have owns := accounted.stocked.owns (reachable.holdsNothing nothing)
  have course := handOver_spec owns accounted.sound found container
  change handed.1.Either _ _ at course
  constructor
  · intro session occasions started
    rw [started] at course
    obtain ⟨left, without, ends⟩ := (course.2.run occasions).ends
    exact ⟨left, course.1.without without, ends⟩
  · intro failure failed
    rw [failed] at course
    exact course

/-- A session is started on one group with a pool that holds another. -/
theorem other_groups_stay_open_of_two :
    let machine := (Tool.demonstration .standard).withContainer "dprc.6" ⟨8⟩ []
    let estate := (opened machine ⟨[], []⟩ [⟨2, 2, 1⟩]).run [.acquire 0 ⟨8⟩]
    let pool : Pool :=
      { limits := ⟨2, 2, 1⟩
        groups := [some { descriptor := ⟨3⟩, group := ⟨8⟩, container := 0 }]
        containers := [some { descriptor := ⟨4⟩, members := [0] }] }
    let occasions : List Occasion := [.inject .state, .operate .status, .clearFaults]
    let handed := estate.handOver 0 pool .standard
    ∃ session left, handed.1 = .ok session ∧ pool.Without session.group.group left ∧
      ((Handover.run ⟨handed.2, session⟩ occasions).teardown.withPool left).Agreement := by
  intro machine estate pool occasions handed
  have reachable : machine.Reachable :=
    (Simulator.reachable_demonstration .standard).step (.withContainer _ _ _)
  have known := other_groups_stay_open machine ⟨[], []⟩ [⟨2, 2, 1⟩] reachable (by decide +kernel)
    [.acquire 0 ⟨8⟩] 0 pool .standard (by decide +kernel)
  have started : handed.1.toOption.isSome = true := by decide +kernel
  cases result : handed.1 with
  | error failure =>
      rw [result] at started
      cases started
  | ok session =>
      obtain ⟨left, without, torn, -⟩ := known.1 session occasions result
      exact ⟨session, left, rfl, without, torn⟩

/-- A pool is handed over that holds group 8, to a session on another group. Once the session is
torn down, no pool is left, and the group and the container that it is attached to are open. -/
theorem a_session_leaves_the_groups_of_its_pool_open :
    let machine := (Tool.demonstration .standard).withContainer "dprc.6" ⟨8⟩ []
    let estate := (opened machine ⟨[], []⟩ [⟨2, 2, 1⟩]).run [.acquire 0 ⟨8⟩]
    let pool := (estate.pools[0]?).getD (Pool.empty .standard)
    let handed := estate.handOver 0 pool .standard
    let ended := handed.1.toOption.map fun session => (Handover.mk handed.2 session).teardown
    pool.descriptors = [(4, .container true), (3, .group ⟨8⟩)] ∧
      ended.map Estate.pools = some [] ∧
      ended.map (fun left => left.machine.descriptors.toList) =
        some [(3, .group ⟨8⟩), (4, .container true)] := by
  decide +kernel

end Passthrough.Estate
