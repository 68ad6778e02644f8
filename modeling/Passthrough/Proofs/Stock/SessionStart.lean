import Passthrough.Proofs.Session.ChannelFrame
import Passthrough.Proofs.Stock.SessionCourse

set_option autoImplicit false

/-! How a session starts, on a machine that holds anything already and with a pool that owns
other groups. A session that has started holds its own group, container object, objects and
portal; if it does not start, nothing was added. Nothing is refused here that closes a
descriptor, and anything else may be. -/

namespace Passthrough

theorem Session.Fitted.atRest {accelerator : DeviceFd} {session : Session HostAddress}
    (fitted : session.Fitted accelerator) : session.AtRest :=
  ⟨congrArg DmaSpace.interruptPage fitted.dma, fitted.token⟩

/-- A session as it is put together from an admission of its group. -/
structure Session.Begun (pool : Pool) (admission : Pool.Admission) (accelerator : DeviceFd)
    (session : Session HostAddress) : Prop extends session.Fitted accelerator where
  admits : pool.Admits admission
  pool : session.pool = pool.admitting admission
  group : session.group = admission.handle

theorem Pool.Admits.houses {pool : Pool} {admission : Pool.Admission}
    (admits : pool.Admits admission) :
    (pool.admitting admission).Houses admission.handle admission.owned
      (admission.host.adding admission.slot) :=
  ⟨admits.held, admits.live⟩

namespace Platform.Hosts

variable {World : Type} {platform : Platform World HostAddress} {machine : World → Simulator}
  {files : Files.FileTree} {refusable : Operation → Prop} {base : Simulator}
  {inventory : Inventory} {world : World}
  (hosts : platform.Hosts machine files refusable)
  (closes : ∀ kind, ¬ refusable (.closeKind kind))

include hosts

theorem probesStocked (stocked : Stocked False base inventory (machine world))
    (session : Session HostAddress) :
    (session.probe platform).Yields world fun result after => result.Either
      (fun _ => session.devices.accelerator.hardwareId = base.tile.attributes.id ∧
        (machine after).sessions = (base.sessions.insert base.nextToken).erase base.nextToken ∧
        (machine after).lastToken = base.nextToken ∧
        Stocked False
          { base with
            lastToken := (machine after).lastToken
            sessions := (machine after).sessions }
          inventory (machine after))
      (Stocked False base inventory (machine after)) := by
  have token : (machine world).nextToken = base.nextToken := by
    unfold Simulator.nextToken
    rw [stocked.lastToken id]
  refine (hosts.probe session world).mono ?_
  rintro (failure | _) after ⟨change, known⟩
  · have unchanged := stocked.firmware change
    rwa [known.1, known.2, stocked.sessions id, stocked.lastToken id] at unchanged
  · obtain ⟨own, sessions, lastToken⟩ := known
    rw [stocked.attributes] at own
    rw [token, stocked.sessions id] at sessions
    exact ⟨own, sessions, lastToken.trans token, stocked.firmware change⟩

include closes

/-- A session starts with its own group, container, objects and portal, or nothing is added. -/
theorem starts {pool : Pool} (sound : pool.Sound)
    (stocked : Stocked False base inventory (machine world)) (container : ContainerName)
    (unknown : ∀ group, (machine world).containerGroup container = .ok group →
      pool.handleOf? group = none) :
    (Session.start platform pool container).Yields world fun result after =>
      result.Either
        (fun session => ∃ admission accelerator, session.Begun pool admission accelerator ∧
          session.devices.accelerator.hardwareId = base.tile.attributes.id ∧
          (machine after).sessions = (base.sessions.insert base.nextToken).erase base.nextToken ∧
          (machine after).lastToken = base.nextToken ∧
          Stocked False
            { base with
              lastToken := (machine after).lastToken
              sessions := (machine after).sessions }
            (inventory.withSession admission.tenure container session accelerator)
            (machine after))
        (Stocked False base inventory (machine after)) := by
  have kept := hosts.keepsStock closes base
  have located : (platform.containerGroup container).Yields world fun result after =>
      machine after = machine world ∧
        ∀ group, result = .ok group → pool.handleOf? group = none := by
    refine (hosts.containerGroup container world).mono ?_
    rintro result after (same | ⟨-, ⟨failure, rfl⟩, same⟩)
    · refine ⟨congrArg Prod.snd same, fun group found => unknown group ?_⟩
      rw [← found]
      exact (congrArg Prod.fst same).symm
    · exact ⟨same, nofun⟩
  rw [Session.start_eq]
  refine Act.Yields.andThen located (fun _ _ known => known.1 ▸ stocked) ?_
  intro group after ⟨same, unheld⟩
  rw [← same] at stocked
  refine Act.Yields.andThenLogged
    (kept.acquires sound (fun _ _ => Or.inl trivial) stocked group) ?_
  rintro ⟨acquired, taken⟩ after (⟨rfl, held, known⟩ | ⟨admission, admits, -, taken, held⟩)
  · cases acquired with
    | error failure => exact fun _ => held
    | ok handle =>
        have absent := unheld group rfl
        rw [known handle rfl] at absent
        cases absent
  · cases taken
    rw [← admits.tenure_eq sound] at held
    have brings := kept.brings admits.houses held container group _
      fun accelerator session reached _ _ _ held => hosts.probesStocked held session
    refine brings.mono fun result reached known => known.imp ?_ fun held => held
    rintro session ⟨accelerator, fitted, pool, handle, known⟩
    refine ⟨admission, accelerator, { fitted with admits, pool, group := handle }, ?_⟩
    rw [← admits.tenure_eq sound]
    exact known

end Platform.Hosts

end Passthrough
