import Passthrough.Proofs.Platform.Fronts
import Passthrough.Proofs.Session.LoadCourse
import Passthrough.Session.Start

set_option autoImplicit false

/-! Firmware sessions are opened and closed in pairs. An operation that only talks to the
firmware, under a token of its own, leaves the machine as it was but for what the
firmware owns, and no firmware session stays open behind it. -/

namespace Passthrough

open Simulator (FirmwareChange)

structure Simulator.Talk (before after : Simulator) : Prop where
  change : FirmwareChange before after
  sessions : after.sessions = before.sessions
  lastToken : after.lastToken = before.lastToken

namespace Simulator

theorem FirmwareChange.refl (sim : Simulator) : FirmwareChange sim sim :=
  ⟨rfl, rfl, rfl⟩

theorem FirmwareChange.trans {before middle after : Simulator}
    (first : FirmwareChange before middle) (second : FirmwareChange middle after) :
    FirmwareChange before after where
  same := by
    rw [second.same, first.same]
  attributes := second.attributes.trans first.attributes
  serviceLayer := second.serviceLayer.trans first.serviceLayer

theorem Talk.refl (sim : Simulator) : Talk sim sim :=
  ⟨.refl sim, rfl, rfl⟩

theorem Talk.trans {before middle after : Simulator} (first : Talk before middle)
    (second : Talk middle after) : Talk before after :=
  ⟨first.change.trans second.change, second.sessions.trans first.sessions,
    second.lastToken.trans first.lastToken⟩

/-- The firmware was called, and its sessions are as a visit leaves them. -/
structure Visited (before after : Simulator) : Prop where
  change : FirmwareChange before after
  visit : before.Visit after

structure Visiting (before opened : Simulator) : Prop where
  change : FirmwareChange before opened
  sessions : opened.sessions = before.sessions.insert before.nextToken
  lastToken : opened.lastToken = before.nextToken

theorem Visiting.talk {before opened called : Simulator} (visiting : before.Visiting opened)
    (talked : Talk opened called) : before.Visiting called :=
  ⟨visiting.change.trans talked.change, talked.sessions.trans visiting.sessions,
    talked.lastToken.trans visiting.lastToken⟩

theorem openSession_cases (sim : Simulator) (hardwareId : UInt32) :
    (∃ status, (sim.openSession hardwareId).1 = .error status ∧
        (sim.openSession hardwareId).2.sessions = sim.sessions ∧
        (sim.openSession hardwareId).2.lastToken = sim.lastToken) ∨
      ((sim.openSession hardwareId).1 = .ok ⟨sim.nextToken⟩ ∧
        hardwareId = sim.tile.attributes.id ∧
        (sim.openSession hardwareId).2.sessions = sim.sessions.insert sim.nextToken ∧
        (sim.openSession hardwareId).2.lastToken = sim.nextToken) := by
  by_cases fault : sim.has .firmwareOpen
  · rw [openSession_of_fault sim hardwareId fault]
    exact Or.inl ⟨_, rfl, rfl, rfl⟩
  · by_cases own : hardwareId = sim.tile.attributes.id
    · rw [openSession_of_own sim hardwareId fault own]
      exact Or.inr ⟨rfl, own, rfl, rfl⟩
    · rw [openSession_of_foreign sim hardwareId fault own]
      exact Or.inl ⟨_, rfl, rfl, rfl⟩

end Simulator

variable {World Portal α β : Type} {machine : World → Simulator}

def Act.Talks (machine : World → Simulator) (action : Act World α) : Prop :=
  ∀ world, action.Yields world fun _ after => Simulator.Talk (machine world) (machine after)

namespace Act.Talks

theorem pure (value : α) : Act.Talks machine (Pure.pure value : Act World α) :=
  fun _ => Act.Yields.pure (.refl _)

theorem bind {action : Act World α} {next : α → Act World β} (first : action.Talks machine)
    (rest : ∀ value, (next value).Talks machine) : Act.Talks machine (action >>= next) := by
  intro world
  refine Act.Yields.andThen (first world) (fun _ _ talked => talked) ?_
  intro value middle talked
  exact (rest value middle).mono fun _ _ more => talked.trans more

theorem request {platform : Platform World Portal} {files : Files.FileTree}
    {refusable : Operation → Prop} (fronts : platform.Fronts machine files refusable)
    (portal : Portal) (call : Call)
    (inSession : ∀ sim : Simulator, sim.serve call = sim.inSession call) :
    (platform.request portal call).Talks machine := by
  intro world
  refine (fronts.request portal call world).mono ?_
  intro result after ⟨_, portals, reached⟩
  obtain ⟨change, sessions, lastToken⟩ := Simulator.inSession_change (machine world) call
  rw [reached, inSession]
  exact ⟨change.withPortals portals, sessions, lastToken⟩

end Act.Talks

namespace Platform.Fronts

variable {platform : Platform World Portal} {files : Files.FileTree}
  {refusable : Operation → Prop}

theorem openSession (fronts : platform.Fronts machine files refusable) (portal : Portal)
    (hardwareId : UInt32) (world : World) :
    (platform.request portal (.openSession hardwareId)).Yields world fun result after =>
      FirmwareChange (machine world) (machine after) ∧
      ((∃ failure, result = .error failure) ∧
          (machine after).sessions = (machine world).sessions ∧
          (machine after).lastToken = (machine world).lastToken ∨
        result = .ok ⟨(machine world).nextToken⟩ ∧
          hardwareId = (machine world).tile.attributes.id ∧
          (machine after).sessions =
            (machine world).sessions.insert (machine world).nextToken ∧
          (machine after).lastToken = (machine world).nextToken) := by
  refine (fronts.request portal (.openSession hardwareId) world).mono ?_
  rintro result after ⟨rfl, portals, reached⟩
  have change := Simulator.serve_change (machine world) (.openSession hardwareId)
  rw [reached]
  refine ⟨change.withPortals portals, ?_⟩
  rcases Simulator.openSession_cases (machine world) hardwareId with
    ⟨status, refused, same⟩ | ⟨accepted, own, sessions⟩
  · exact Or.inl ⟨⟨_, congrArg (Simulator.told (.openSession hardwareId)) refused⟩, same⟩
  · exact Or.inr
      ⟨congrArg (Simulator.told (.openSession hardwareId)) accepted, own, sessions⟩

theorem closeSession (fronts : platform.Fronts machine files refusable) (portal : Portal)
    (token : Token) (world : World) (known : (machine world).hasSession token = true) :
    (platform.request portal (.closeSession token)).Yields world fun _ after =>
      FirmwareChange (machine world) (machine after) ∧
        (machine after).sessions = (machine world).sessions.erase token.number ∧
        (machine after).lastToken = (machine world).lastToken := by
  refine (fronts.request portal (.closeSession token) world).mono ?_
  intro result after ⟨_, portals, reached⟩
  have change := Simulator.serve_change (machine world) (.closeSession token)
  rw [reached]
  refine ⟨change.withPortals portals, ?_⟩
  change ((machine world).closeSession token).2.sessions = _ ∧
    ((machine world).closeSession token).2.lastToken = _
  rw [Simulator.closeSession_of_known _ token known]
  exact ⟨rfl, rfl⟩

theorem leave (fronts : platform.Fronts machine files refusable) (portal : Portal)
    {before : Simulator} {opened : World} (visiting : before.Visiting (machine opened)) :
    (platform.request portal (.closeSession ⟨before.nextToken⟩)).Yields opened
      fun _ after => before.Visited (machine after) ∧
        (machine after).sessions = (before.sessions.insert before.nextToken).erase
          before.nextToken ∧
        (machine after).lastToken = before.nextToken := by
  have known : (machine opened).hasSession ⟨before.nextToken⟩ = true := by
    unfold Simulator.hasSession
    rw [visiting.sessions]
    exact Std.ExtTreeSet.contains_insert_self
  refine (fronts.closeSession portal _ opened known).mono ?_
  rintro closed after ⟨change, sessions, lastToken⟩
  rw [visiting.sessions] at sessions
  rw [visiting.lastToken] at lastToken
  exact ⟨⟨visiting.change.trans change, Or.inr ⟨sessions, lastToken⟩⟩, sessions, lastToken⟩

/-- An operation on a session opens one firmware session and closes it. -/
theorem withChannel (fronts : platform.Fronts machine files refusable) {session : Session Portal}
    (atRest : session.AtRest) (operation : String) {calls : Token → Act World α}
    (talks : ∀ token, (calls token).Talks machine) (world : World) :
    (session.withChannel platform operation calls).Yields world fun outcome after =>
      (machine world).Visited (machine after) ∧ outcome.2 = session := by
  have opens : (platform.request session.portal
      (.openSession session.devices.accelerator.hardwareId)).Yields world fun result opened =>
        result.Either
          (fun token => token = ⟨(machine world).nextToken⟩ ∧
            (machine world).Visiting (machine opened))
          ((machine world).Visited (machine opened)) := by
    refine (fronts.openSession session.portal _ world).mono ?_
    rintro result opened ⟨change, ⟨⟨failure, rfl⟩, same⟩ | ⟨rfl, -, sessions, lastToken⟩⟩
    · exact ⟨change, Or.inl same⟩
    · exact ⟨rfl, change, sessions, lastToken⟩
  have calling (token : Token) (opened : World)
      (known : token = ⟨(machine world).nextToken⟩ ∧
        (machine world).Visiting (machine opened)) :
      (calls token).Yields opened fun _ called =>
        token = ⟨(machine world).nextToken⟩ ∧ (machine world).Visiting (machine called) :=
    (talks token opened).mono fun _ called talked => ⟨known.1, known.2.talk talked⟩
  refine Session.yields_withChannel operation opens ?_ calling ?_
  · exact fun failure opened known => ⟨known, rfl⟩
  · rintro _ result called ⟨rfl, visiting⟩
    refine (fronts.leave session.portal visiting).mono ?_
    exact fun closed after known => ⟨known.1, atRest.withToken_none⟩

/-- A probe that fails opened nothing. Otherwise it was the tile asked for that answered, and the
token that it was handed is closed. -/
theorem probe (fronts : platform.Fronts machine files refusable) (session : Session Portal)
    (world : World) :
    (session.probe platform).Yields world fun result after =>
      FirmwareChange (machine world) (machine after) ∧
        result.Either
          (fun _ => session.devices.accelerator.hardwareId = (machine world).tile.attributes.id ∧
            (machine after).sessions =
              ((machine world).sessions.insert (machine world).nextToken).erase
                (machine world).nextToken ∧
            (machine after).lastToken = (machine world).nextToken)
          ((machine after).sessions = (machine world).sessions ∧
            (machine after).lastToken = (machine world).lastToken) := by
  unfold Session.probe
  refine Act.Yields.andThen (fronts.openSession session.portal _ world) ?_ ?_
  · rintro failure opened ⟨change, ⟨-, same⟩ | ⟨impossible, -⟩⟩
    · exact ⟨change, same⟩
    · cases impossible
  · rintro token opened ⟨change, ⟨⟨failure, impossible⟩, -⟩ | ⟨handed, own, sessions, lastToken⟩⟩
    · cases impossible
    · cases handed
      have visiting : (machine world).Visiting (machine opened) := ⟨change, sessions, lastToken⟩
      apply Act.Yields.ofLogged
      refine Logged.Yields.andThen
        (Act.Talks.request fronts session.portal (.attributes _) (fun _ => rfl) opened) ?_
      intro result asked talked
      have closes := fronts.leave session.portal (visiting.talk talked)
      -- How the session is closed makes a difference to the log only.
      cases result with
      | ok _ =>
          refine Logged.Yields.andThen closes ?_
          rintro (failure | _) after ⟨visited, closed⟩
          · exact Logged.Yields.note ⟨visited.change, own, closed⟩
          · exact Logged.Yields.pure ⟨visited.change, own, closed⟩
      | error failure =>
          refine Logged.Yields.afterNote (Logged.Yields.andThen closes ?_)
          rintro (failure | _) after ⟨visited, closed⟩
          · exact Logged.Yields.note ⟨visited.change, own, closed⟩
          · exact Logged.Yields.pure ⟨visited.change, own, closed⟩

end Platform.Fronts

end Passthrough
