import Passthrough.Proofs.Session.Takings

set_option autoImplicit false

/-! A load leaves nothing behind. Whatever fails on the way, alone or together with releases
that are refused, every table of the machine is as before the load, except one from
which removing was refused; a release that fails does not keep the others from taking
effect. -/

namespace Passthrough

open Files (FileTree)

variable {World Portal α : Type}

namespace Custody

variable {refusable : Operation → Prop} {container : ContainerFd} {base sim : Simulator}
  {ledger : Ledger}

theorem restate (custody : Custody refusable container base ledger sim) {moved : Ledger}
    (descriptors : moved.descriptors = ledger.descriptors)
    (mappings : moved.mappings = ledger.mappings)
    (registrations : moved.registrations container = ledger.registrations container)
    (channel : moved.channel = ledger.channel) :
    Custody refusable container base moved sim := by
  apply custody.aside (Simulator.Aside.refl sim) custody.fresh channel
  · rw [descriptors]
    exact custody.descriptors
  · rw [mappings]
    exact custody.mappings
  · rw [registrations]
    exact custody.registrations

/-- The account of what a machine holds; it says nothing of why a step fails. -/
def account (refusable : Operation → Prop) (container : ContainerFd) (base : Simulator) :
    Account Simulator :=
  { holds := Custody refusable container base
    accepts := fun _ => True
    rejects := fun _ _ => True }

end Custody

namespace Custody

variable {refusable : Operation → Prop} {container : ContainerFd} {base : Simulator}
  {machine : World → Simulator} {world : World} {denied : Prop}

theorem settles_of_comes {step : Fault} {failed : Ledger} {done : α → Ledger} {result : Result α}
    {reached : World}
    (comes : Comes refusable container base failed done (result, machine reached)) :
    ((account refusable container base).over machine).Settles step failed done result reached := by
  cases result with
  | ok value => exact ⟨trivial, comes⟩
  | error failure => exact ⟨trivial, comes⟩

theorem moves_of_comes {failed : Ledger} {done : α → Ledger} {result : Result α}
    {reached : World}
    (comes : Comes refusable container base failed done (result, machine reached)) :
    ((account refusable container base).over machine).Moves failed done result reached := by
  cases result with
  | ok value => exact comes
  | error failure => exact comes

theorem comes {action : Act World α} {operation : Simulator → Result α × Simulator}
    {failed : Ledger} {done : α → Ledger} (follows : action.Follows machine denied operation)
    (known : Comes refusable container base failed done (operation (machine world)))
    (untouched : Custody refusable container base failed (machine world)) :
    action.Yields world fun result reached =>
      Comes refusable container base failed done (result, machine reached) := by
  refine (follows world).mono ?_
  rintro result reached (acted | ⟨-, ⟨failure, rfl⟩, same⟩)
  · rw [acted]
    exact known
  · rw [same]
    exact untouched

theorem comes_either {moved : Ledger} {outcome : Result α × Simulator}
    (custody : Custody refusable container base moved outcome.2) :
    Comes refusable container base moved (fun _ => moved) outcome := by
  obtain ⟨result, after⟩ := outcome
  cases result with
  | ok value => exact custody
  | error failure => exact custody

theorem settles_inSession {platform : Platform World Portal} {files : FileTree}
    (fronts : platform.Fronts machine files refusable) (portal : Portal) (call : Call)
    (inSession : ∀ sim : Simulator, sim.serve call = sim.inSession call) {ledger : Ledger}
    (custody : Custody refusable container base ledger (machine world)) (step : Fault)
    (tile : TileState) :
    (platform.request portal call).Yields world
      (((account refusable container base).over machine).Settles step ledger
        fun _ => ledger.withTile tile) := by
  refine (fronts.request portal call world).mono ?_
  intro result after ⟨_, portals, reached⟩
  rw [inSession] at reached
  apply settles_of_comes
  rw [reached]
  cases result with
  | ok reply => exact custody.inSession call portals rfl rfl rfl rfl
  | error failure => exact custody.inSession call portals rfl rfl rfl rfl

theorem releases {action : Act World α} {operation : Simulator → Result α × Simulator}
    {moved : Ledger} (follows : action.Follows machine denied operation)
    (done : Custody refusable container base moved (operation (machine world)).2)
    (refused : denied → Custody refusable container base moved (machine world)) :
    action.Yields world fun _ reached =>
      Custody refusable container base moved (machine reached) :=
  (follows world).mono fun _ reached came => by
    rcases came with acted | ⟨allowed, -, same⟩
    · rw [show machine reached = _ from congrArg Prod.snd acted]
      exact done
    · rw [same]
      exact refused allowed

end Custody

namespace Platform.Fronts

variable {platform : Platform World Portal} {machine : World → Simulator} {files : FileTree}
  {refusable : Operation → Prop}

theorem kept (fronts : platform.Fronts machine files refusable) (session : Session Portal)
    (request : LoadRequest) (plan : LoadPlan) (base : Simulator) :
    ((Custody.account refusable session.dma.container base).over machine).Kept platform files
      session request plan where
  apart := by
    intro ledger world holds descriptor address length rest top
    have custody : Custody refusable _ base ledger (machine world) := holds
    exact custody.mapping_apart top
  openFile := by
    intro ledger world holds phase path size sized
    have custody : Custody refusable _ base ledger (machine world) := holds
    exact (Custody.comes (fronts.openFile path) (custody.openFile files path)
      (custody.restate rfl rfl rfl rfl)).mono fun _ _ => Custody.settles_of_comes
  mapFile := by
    intro ledger world holds phase few path descriptor known size short
    have custody : Custody refusable _ base ledger (machine world) := holds
    exact (Custody.comes (fronts.mapFile descriptor _) (custody.mapFile descriptor _)
      (custody.restate rfl rfl rfl rfl)).mono fun _ _ => Custody.settles_of_comes
  closeFile := by
    intro ledger world holds path descriptor rest top
    have custody : Custody refusable _ base ledger (machine world) := holds
    apply Custody.releases (fronts.closeFile descriptor) (custody.closeFile top).2
    intro allowed
    obtain ⟨_, stack, _, _, _, _, _, _, _⟩ := ledger
    cases top
    exact custody.aside (.refl _) custody.fresh rfl (custody.descriptors.forget allowed)
      custody.mappings custody.registrations
  unmap := by
    intro ledger world holds descriptor address length rest top
    have custody : Custody refusable _ base ledger (machine world) := holds
    apply Custody.releases (fronts.unmap address length) (custody.unmap top).2
    intro allowed
    obtain ⟨_, stack, _, _, _, _, _, _, _⟩ := ledger
    cases top
    exact custody.aside (.refl _) custody.fresh rfl custody.descriptors
      (custody.mappings.forget allowed) custody.registrations
  mapDma := by
    intro ledger world holds phase descriptor address length mapped unregistered
    have custody : Custody refusable _ base ledger (machine world) := holds
    exact (Custody.comes (fronts.mapDma _ address address.identity length)
      (custody.mapDma address length) (custody.restate rfl rfl rfl rfl)).mono
        fun _ _ => Custody.settles_of_comes
  unmapDma := by
    intro ledger world holds address length rest top
    have custody : Custody refusable _ base ledger (machine world) := holds
    apply Custody.releases (fronts.unmapDma _ address.identity length)
      (custody.unmapDma top).2
    intro allowed
    obtain ⟨_, stack, _, _, _, _, _, _, _⟩ := ledger
    cases top
    exact custody.aside (.refl _) custody.fresh rfl custody.descriptors custody.mappings
      (custody.registrations.forget allowed)
  mapPage := by
    intro ledger world holds phase absent untouched
    have custody : Custody refusable _ base ledger (machine world) := holds
    exact (Custody.comes (fronts.mapDevice _ _ _) (custody.mapPage _ _ absent untouched)
      custody).mono fun _ _ => Custody.moves_of_comes
  registerPage := by
    intro ledger world holds absent page mapped
    have custody : Custody refusable _ base ledger (machine world) := holds
    exact (Custody.comes (fronts.mapDma _ _ _ _) (custody.registerPage absent mapped)
      custody).mono fun _ _ => Custody.moves_of_comes
  unregisterPage := by
    intro ledger world holds page present untouched
    have custody : Custody refusable _ base ledger (machine world) := holds
    apply Custody.releases (fronts.unmapDma _ _ _)
      (custody.unregisterPage present untouched).2
    intro allowed
    obtain ⟨_, stack, _, _, _, _, _, _, _⟩ := ledger
    cases present
    cases untouched
    exact custody.aside (.refl _) custody.fresh rfl custody.descriptors custody.mappings
      ((custody.registrations.perm List.perm_middle).forget allowed)
  unmapPage := by
    intro ledger world holds absent page mapped
    have custody : Custody refusable _ base ledger (machine world) := holds
    apply Custody.releases (fronts.unmap page _) (custody.unmapPage absent mapped).2
    intro allowed
    obtain ⟨_, stack, _, _, _, _, _, _, _⟩ := ledger
    cases absent
    cases mapped
    exact custody.aside (.refl _) custody.fresh rfl custody.descriptors
      ((custody.mappings.perm List.perm_middle).forget allowed) custody.registrations
  openSession := by
    intro ledger world holds phase unopened
    have custody : Custody refusable _ base ledger (machine world) := holds
    refine (fronts.request _ _ world).mono ?_
    rintro result after ⟨rfl, portals, reached⟩
    apply Custody.settles_of_comes
    rw [reached]
    exact custody.openSession unopened _ portals
  resetTile := by
    intro ledger world holds phase token opened
    have custody : Custody refusable _ base ledger (machine world) := holds
    exact Custody.settles_inSession fronts _ _ (fun _ => rfl) custody _ _
  loadTile := by
    intro ledger world holds phase token opened address offered
    have custody : Custody refusable _ base ledger (machine world) := holds
    exact Custody.settles_inSession fronts _ _ (fun _ => rfl) custody _ _
  runTile := by
    intro ledger world holds phase token opened loaded arguments offered
    have custody : Custody refusable _ base ledger (machine world) := holds
    exact Custody.settles_inSession fronts _ _ (fun _ => rfl) custody _ _
  closeSession := by
    intro ledger world holds phase token opened
    have custody : Custody refusable _ base ledger (machine world) := holds
    refine (fronts.request _ _ world).mono ?_
    rintro result after ⟨rfl, portals, reached⟩
    apply Custody.settles_of_comes
    rw [reached]
    exact Custody.comes_either (custody.closeSession opened portals)

end Platform.Fronts

namespace Custody

variable {refusable : Operation → Prop} {container : ContainerFd} {base sim : Simulator}
  {ledger : Ledger}

theorem visit (custody : Custody refusable container base ledger sim)
    (shut : ∀ token, ledger.channel ≠ .opened token) : base.Visit sim := by
  have shows := custody.channel
  cases channel : ledger.channel with
  | unopened =>
      rw [channel] at shows
      exact Or.inl shows
  | opened token => exact absurd channel (shut token)
  | closed =>
      rw [channel] at shows
      exact Or.inr shows

theorem sessions_restored (custody : Custody refusable container base ledger sim)
    (shut : ∀ token, ledger.channel ≠ .opened token) (unused : base.nextToken ∉ base.sessions) :
    sim.sessions = base.sessions :=
  (custody.visit shut).restored fun _ => unused

end Custody

/-- Nothing that a load took is held any more. -/
structure Ledger.Bare (ledger : Ledger) : Prop where
  stack : ledger.stack = []
  page : ledger.page = none
  loose : ledger.loose = none
  channel : ∀ token, ledger.channel ≠ .opened token

namespace Ledger.Bare

variable {ledger : Ledger}

theorem descriptors (bare : ledger.Bare) : ledger.descriptors = [] := by
  rw [Ledger.descriptors, bare.stack]
  rfl

theorem mappings (bare : ledger.Bare) : ledger.mappings = [] := by
  rw [Ledger.mappings, bare.stack, bare.page, bare.loose]
  rfl

theorem registrations (bare : ledger.Bare) (container : ContainerFd) :
    ledger.registrations container = [] := by
  rw [Ledger.registrations, bare.stack, bare.page]
  rfl

end Ledger.Bare

/-- A load gives back all that it takes, on whatever account it is kept. -/
theorem Account.load_bare {account : Account World} {platform : Platform World Portal}
    {files : FileTree} {session : Session Portal} {request : LoadRequest}
    (kept : ∀ plan, account.Kept platform files session request plan) (atRest : session.AtRest)
    {world : World} {opened mapped registered : Nat} {tile : TileState}
    (held : account.holds (Ledger.start opened mapped registered tile) world) :
    (session.load platform files request).Yields world fun outcome after =>
      (∃ last : Ledger, last.Bare ∧ account.holds last after) ∧ outcome.2 = session := by
  cases planned : request.plan files with
  | error failure =>
      rw [Session.load_of_refused planned]
      have bare : (Ledger.start opened mapped registered tile).Bare := ⟨rfl, rfl, rfl, nofun⟩
      exact Logged.Yields.afterNote (Logged.Yields.pure ⟨⟨_, bare, held⟩, rfl⟩)
  | ok plan =>
      refine ((kept plan).load planned atRest held).mono ?_
      rintro outcome after ⟨last, holds, returns, left, -⟩
      have pageless : last.page = none := returns.page.elim id id
      refine ⟨⟨last, ⟨returns.stack, pageless, returns.loose, returns.channel⟩, holds⟩, ?_⟩
      rw [left, pageless]
      exact atRest.withPage_none

theorem load_custody {platform : Platform World Portal} {machine : World → Simulator}
    {files : FileTree} {refusable : Operation → Prop}
    (fronts : platform.Fronts machine files refusable) {session : Session Portal}
    (atRest : session.AtRest) (request : LoadRequest) (start : Traced World)
    (fresh : (machine start.world).Fresh) :
    ∃ last : Ledger, last.descriptors = [] ∧ last.mappings = [] ∧
      last.registrations session.dma.container = [] ∧
      (∀ token, last.channel ≠ .opened token) ∧
      Custody refusable session.dma.container (machine start.world) last
        (machine (session.load platform files request start).2.world) ∧
      (session.load platform files request start).1.2 = session := by
  have custody : Custody refusable session.dma.container (machine start.world)
      (Ledger.start 0 0 0 .resetDone) (machine start.world) :=
    Custody.start fresh 0 0 0 .resetDone
  have kept (plan : LoadPlan) := fronts.kept session request plan (machine start.world)
  have held : ((Custody.account refusable session.dma.container (machine start.world)).over
      machine).holds (Ledger.start 0 0 0 .resetDone) start.world := custody
  obtain ⟨⟨last, bare, holds⟩, same⟩ := Account.load_bare kept atRest held start.log
  exact ⟨last, bare.descriptors, bare.mappings, bare.registrations _, bare.channel, holds, same⟩

structure Unwound (refusable : Operation → Prop) (before after : Simulator)
    (session left : Session Portal) : Prop where
  descriptors : ¬ refusable (.closeKind .file) → after.descriptors = before.descriptors
  mappings : ¬ refusable .unmap → after.mappings = before.mappings
  registrations : ¬ refusable .unmapDma → after.registrations = before.registrations
  sessions : before.nextToken ∉ before.sessions → after.sessions = before.sessions
  attachments : after.attachments = before.attachments
  pool : left.pool = session.pool
  page : left.dma.hasInterruptPage = false
  token : left.devices.accelerator.token = none

/-- After a load, whatever it came to, each table of the machine is as it was unless removing
from that very table can be refused, and the session is between operations again. -/
theorem load_unwinds (platform : Platform World Portal) (machine : World → Simulator)
    (files : FileTree) (refusable : Operation → Prop)
    (fronts : platform.Fronts machine files refusable) (session : Session Portal)
    (atRest : session.AtRest) (request : LoadRequest) (start : Traced World)
    (reachable : (machine start.world).Reachable) :
    Unwound refusable (machine start.world)
      (machine (session.load platform files request start).2.world) session
      (session.load platform files request start).1.2 := by
  obtain ⟨last, descriptors, mappings, registrations, shut, custody, same⟩ :=
    load_custody fronts atRest request start reachable.fresh
  have pageless : session.dma.hasInterruptPage = false := by
    rw [DmaSpace.hasInterruptPage, atRest.page]
    rfl
  rw [same]
  refine ⟨?_, ?_, ?_, custody.sessions_restored shut, custody.attachments, rfl, pageless,
    atRest.token⟩
  · exact (descriptors ▸ custody.descriptors).eq_base
  · exact (mappings ▸ custody.mappings).eq_base
  · exact (registrations ▸ custody.registrations).eq_base

/-- The session is one that was started, and the load gets as far as the run command: image,
arguments and interrupt page are registered, and a firmware session is open. As nothing can be
unmapped, three mappings stay, and nothing else does. -/
theorem load_unwinds_of_refused_unmap :
    let files : FileTree :=
      ⟨[(["image"], .regular ⟨[], 100⟩ true), (["arguments"], .regular ⟨[], 8⟩ true)], []⟩
    let started := (Session.start (Simulator.platform files) (Pool.empty .standard)
      .standard).outcome ⟨Tool.demonstration .standard, []⟩
    let machine := started.2.world.inject .run
    let platform := (Gate.allow.refuse .unmap).inFront (Simulator.platform files)
    let request : LoadRequest := { image := "/image", arguments := "/arguments", reset := true }
    ∃ session, started.1 = .ok session ∧
      let left := session.load platform files request ⟨machine, []⟩
      left.1.1 = .error (.firmware "run" .invalidState) ∧
        left.2.world.tile.state = .loadDone ∧
        left.2.world.mappings.size = machine.mappings.size + 3 ∧
        left.2.world.descriptors = machine.descriptors ∧
        left.2.world.registrations = machine.registrations ∧
        left.2.world.sessions = machine.sessions := by
  intro files
  have begun := Session.start_reachable files (Pool.empty .standard) .standard
    (Simulator.reachable_demonstration .standard)
  -- As a variable the start is not computed, except where something is decided about it.
  generalize same : (Session.start (Simulator.platform files) (Pool.empty .standard)
    .standard).outcome ⟨Tool.demonstration .standard, []⟩ = started at begun ⊢
  intro _ machine platform request
  have unused : machine.nextToken ∉ machine.sessions := by
    subst same
    decide +kernel
  have rests : (started.1.map fun session =>
      (session.dma.interruptPage, session.devices.accelerator.token)) = .ok (none, none) := by
    subst same
    decide +kernel
  have fails : (started.1.map fun session =>
      (session.load platform files request ⟨machine, []⟩).1.1) =
      .ok (.error (.firmware "run" .invalidState)) := by
    subst same
    decide +kernel
  have reaches : (started.1.map fun session =>
      let left := (session.load platform files request ⟨machine, []⟩).2.world
      (left.tile.state, left.mappings.size)) =
      .ok (.loadDone, machine.mappings.size + 3) := by
    subst same
    decide +kernel
  obtain ⟨result, traced⟩ := started
  cases result with
  | error failure => cases rests
  | ok session =>
      have atRest : session.AtRest :=
        ⟨congrArg Prod.fst (Except.ok.inj rests), congrArg Prod.snd (Except.ok.inj rests)⟩
      have unwound := load_unwinds platform id files _
        (Gate.fronts_inFront _ (Simulator.fronts_platform files)) session atRest request
        ⟨machine, []⟩ (begun.step (.inject .run))
      exact ⟨session, rfl, Except.ok.inj fails, congrArg Prod.fst (Except.ok.inj reaches),
        congrArg Prod.snd (Except.ok.inj reaches), unwound.descriptors (by decide),
        unwound.registrations (by decide), unwound.sessions unused⟩

end Passthrough
