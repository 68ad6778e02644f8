import Passthrough.Proofs.Session.ChannelRule
import Passthrough.Proofs.Session.Ledger

set_option autoImplicit false

/-! The course of a load on a platform where an account is kept. Every piece of a load gives
back what it took, and its outcome is that of its steps: the first one that fails
ends it, and what was held by then is released in reverse. One statement belongs to each
function of a load, and each is assembled from those of the functions it calls. -/

namespace Passthrough

open Files (FileTree)

variable {World Portal α : Type}

def Session.withPage (session : Session Portal) (page : Option HostAddress) : Session Portal :=
  { session with dma := { session.dma with interruptPage := page } }

/-- A session between operations: no interrupt page is registered, and no firmware session is
open. -/
structure Session.AtRest (session : Session Portal) : Prop where
  page : session.dma.interruptPage = none
  token : session.devices.accelerator.token = none

theorem Session.AtRest.withPage_none {session : Session Portal} (atRest : session.AtRest) :
    session.withPage none = session := by
  have same : session.withPage session.dma.interruptPage = session := rfl
  rw [atRest.page] at same
  exact same

theorem Session.AtRest.withToken_none {session : Session Portal} (atRest : session.AtRest) :
    session.withToken none = session := by
  have same : session.withToken session.devices.accelerator.token = session := rfl
  rw [atRest.token] at same
  exact same

def Ledger.staged (ledger : Ledger) (path : String) (file : Session.StagedFile) : Ledger :=
  ((ledger.countOpen.push (.file path file.descriptor)).countMap).push
    (.mapping file.descriptor file.address file.length)

/-- How a piece of a load ends: everything is given back, and its steps tell the outcome. -/
def Account.Ends (account : Account World) (session : Session Portal) (steps : List Fault)
    (ledger : Ledger) (outcome : Result α × Session Portal) (after : World) : Prop :=
  ∃ last : Ledger, account.holds last after ∧ ledger.Returns last ∧
    outcome.2 = session.withPage last.page ∧
    account.Outcome steps ledger.tile (Result.failure? outcome.1) last.tile

namespace Account.Kept

variable {account : Account World} {platform : Platform World Portal} {files : FileTree}
  {session : Session Portal} {request : LoadRequest} {plan : LoadPlan} {ledger : Ledger}
  {world : World}

/-! ### Staged files -/

theorem closeQuietly (kept : account.Kept platform files session request plan)
    (holds : account.holds ledger world) {path : String} {descriptor : FileFd}
    {rest : List Holding} (top : ledger.stack = .file path descriptor :: rest) :
    (platform.closeQuietly descriptor).Yields world fun _ after =>
      account.holds (ledger.release rest) after := by
  unfold Platform.closeQuietly
  refine Logged.Yields.andThen (kept.closeFile holds top) ?_
  intro result after closed
  cases result with
  | ok _ => exact Logged.Yields.pure closed
  | error failure => exact Logged.Yields.note closed

theorem stage (kept : account.Kept platform files session request plan)
    (holds : account.holds ledger world) (phase : ledger.phase = .staging)
    (few : ledger.stack.length ≤ 2) (untouched : ledger.loose = none)
    (unopened : ledger.channel = .unopened) {path : String} {size : Nat}
    (sized : files.HasLength path size) (short : size ≤ Staging.imageLimit) :
    (Session.stage platform path (Staging.stagedLength size)).Yields world fun result after =>
      match result with
      | .ok file => file.length = Staging.stagedLength size ∧
          account.accepts (.openFile (ledger.opened + 1)) ∧
          account.accepts (.mapFile (ledger.mapped + 1)) ∧
          account.holds (ledger.staged path file) after
      | .error failure => ∃ last, account.holds last after ∧ ledger.Returns last ∧
          last.tile = ledger.tile ∧
          ∀ steps, account.Outcome
            (.openFile (ledger.opened + 1) :: .mapFile (ledger.mapped + 1) :: steps)
              ledger.tile (some failure) ledger.tile := by
  have shut : ∀ token, ledger.channel ≠ .opened token := by
    rw [unopened]
    exact nofun
  unfold Session.stage
  refine Act.Yields.andThen (kept.openFile holds phase sized) ?_ ?_
  · intro failure reached ⟨rejected, counted⟩
    exact ⟨ledger.countOpen, counted, ⟨rfl, Or.inl rfl, untouched, shut⟩, rfl,
      fun steps => .stop nofun rejected⟩
  · intro descriptor reached ⟨passed, opened⟩
    have mapped : ((platform.mapFile descriptor (Staging.stagedLength size)).onFailure fun _ =>
        platform.closeQuietly descriptor).Yields reached fun result after =>
          match result with
          | .ok address => account.accepts (.mapFile (ledger.mapped + 1)) ∧
              account.holds (ledger.staged path
                ⟨descriptor, address, Staging.stagedLength size⟩) after
          | .error failure => account.rejects (.mapFile (ledger.mapped + 1)) failure ∧
              account.holds ((ledger.countOpen.push (.file path descriptor)).countMap.release
                ledger.stack) after := by
      have few' : (ledger.countOpen.push (.file path descriptor)).stack.length ≤ 3 :=
        Nat.succ_le_succ few
      refine Act.Yields.onFailure
        (kept.mapFile opened phase few' List.mem_cons_self short) ?_ ?_
      · intro failure stopped ⟨rejected, counted⟩
        refine (kept.closeQuietly counted rfl).mono ?_
        exact fun _ _ closed => ⟨rejected, closed⟩
      · exact fun address after known => known
    refine Act.Yields.andThen mapped ?_ ?_
    · intro failure after ⟨rejected, closed⟩
      exact ⟨_, closed, ⟨rfl, Or.inl rfl, untouched, shut⟩, rfl,
        fun steps => .pass passed (.stop nofun rejected)⟩
    · intro address after ⟨accepted, staged⟩
      exact Act.Yields.pure ⟨rfl, passed, accepted, staged⟩

theorem unstage (kept : account.Kept platform files session request plan)
    (holds : account.holds ledger world) {path : String} {file : Session.StagedFile}
    {rest : List Holding}
    (top : ledger.stack =
      .mapping file.descriptor file.address file.length :: .file path file.descriptor :: rest) :
    (Session.unstage platform file).Yields world fun _ after =>
      account.holds (ledger.release rest) after := by
  unfold Session.unstage
  refine Logged.Yields.andThen (kept.unmap holds top) ?_
  intro result after unmapped
  have closes : (platform.closeQuietly file.descriptor).Yields after fun _ last =>
      account.holds (ledger.release rest) last := kept.closeQuietly unmapped rfl
  cases result with
  | ok _ => exact closes
  | error failure => exact Logged.Yields.afterNote closes

theorem withStaged (kept : account.Kept platform files session request plan)
    (atRest : session.withPage none = session) (holds : account.holds ledger world)
    (phase : ledger.phase = .staging) (few : ledger.stack.length ≤ 2)
    (absent : ledger.page = none) (untouched : ledger.loose = none)
    (unopened : ledger.channel = .unopened) {path : String} {size : Nat}
    (sized : files.HasLength path size) (short : size ≤ Staging.imageLimit)
    {work : Session.StagedFile → Session Portal → Logged World (Result α × Session Portal)}
    {steps : List Fault}
    (works : ∀ descriptor address staged,
      account.holds (ledger.staged path ⟨descriptor, address, Staging.stagedLength size⟩) staged →
      (work ⟨descriptor, address, Staging.stagedLength size⟩ session).Yields staged
        (account.Ends session steps
          (ledger.staged path ⟨descriptor, address, Staging.stagedLength size⟩))) :
    (session.withStaged platform path (Staging.stagedLength size) work).Yields world
      (account.Ends session
        (.openFile (ledger.opened + 1) :: .mapFile (ledger.mapped + 1) :: steps) ledger) := by
  have gone {last : Ledger} (returns : ledger.Returns last) : last.page = none :=
    returns.page.elim (fun same => same.trans absent) id
  unfold Session.withStaged
  refine Logged.Yields.andThen
    (kept.stage holds phase few untouched unopened sized short) ?_
  intro result staged known
  cases result with
  | error failure =>
      obtain ⟨last, held, returns, same, outcome⟩ := known
      refine Logged.Yields.pure ⟨last, held, returns, ?_, ?_⟩
      · rw [gone returns, atRest]
      · rw [same]
        exact outcome steps
  | ok file =>
      obtain ⟨descriptor, address, length⟩ := file
      obtain ⟨rfl, opened, mapped, held⟩ := known
      refine Logged.Yields.andThen (works descriptor address staged held) ?_
      intro ⟨value, session'⟩ worked ⟨last, held, returns, session'_eq, outcome⟩
      have top : last.stack = .mapping descriptor address (Staging.stagedLength size) ::
          .file path descriptor :: ledger.stack := returns.stack
      refine Logged.Yields.andThen (kept.unstage held top) ?_
      intro _ after released
      refine Logged.Yields.pure
        ⟨last.release ledger.stack, released, ?_, session'_eq, .pass opened (.pass mapped outcome)⟩
      exact ⟨rfl, returns.page, returns.loose, returns.channel⟩

/-! ### Registered buffers -/

theorem unmapInterruptPage (kept : account.Kept platform files session request plan)
    (holds : account.holds ledger world) (absent : ledger.page = none) {page : HostAddress}
    (mapped : ledger.loose = some page) :
    (DmaSpace.unmapInterruptPage platform page).Yields world fun _ after =>
      account.holds (ledger.withPage none none) after := by
  unfold DmaSpace.unmapInterruptPage
  refine Logged.Yields.andThen (kept.unmapPage holds absent mapped) ?_
  intro result after unmapped
  cases result with
  | ok _ => exact Logged.Yields.pure unmapped
  | error failure => exact Logged.Yields.note unmapped

/-- The page may stay away, but it never stays half. -/
theorem ensureInterruptPage (kept : account.Kept platform files session request plan)
    (holds : account.holds ledger world) (phase : ledger.phase = .registering)
    (untouched : ledger.loose = none) :
    ((session.withPage ledger.page).dma.ensureInterruptPage platform).Yields world
      fun space after => ∃ page, space = (session.withPage page).dma ∧
        account.holds (ledger.withPage page none) after := by
  have same : ledger.withPage ledger.page none = ledger := by
    rw [← untouched]
    rfl
  unfold DmaSpace.ensureInterruptPage
  cases present : ledger.page with
  | some page =>
      refine Logged.Yields.pure ⟨some page, rfl, ?_⟩
      rw [← present, same]
      exact holds
  | none =>
      refine Logged.Yields.andThen (kept.mapPage holds phase present untouched) ?_
      intro result mapped known
      cases result with
      | error failure =>
          refine Logged.Yields.afterNote (Logged.Yields.pure ⟨none, rfl, ?_⟩)
          rw [present] at same
          rw [same]
          exact known
      | ok page =>
          refine Logged.Yields.andThen (kept.registerPage known rfl rfl) ?_
          intro result registered known
          cases result with
          | ok _ => exact Logged.Yields.pure ⟨some page, rfl, known⟩
          | error failure =>
              refine Logged.Yields.afterNote
                (Logged.Yields.andThen (kept.unmapInterruptPage known rfl rfl) ?_)
              exact fun _ _ unmapped => Logged.Yields.pure ⟨none, rfl, unmapped⟩

theorem releaseInterruptPage (kept : account.Kept platform files session request plan)
    (holds : account.holds ledger world) (untouched : ledger.loose = none) :
    ((session.withPage ledger.page).dma.releaseInterruptPage platform).Yields world
      fun space after => space = (session.withPage none).dma ∧
        account.holds (ledger.withPage none none) after := by
  unfold DmaSpace.releaseInterruptPage
  cases present : ledger.page with
  | none =>
      refine Logged.Yields.pure ⟨rfl, ?_⟩
      have same : ledger.withPage ledger.page ledger.loose = ledger := rfl
      rw [present, untouched] at same
      rw [same]
      exact holds
  | some page =>
      refine Logged.Yields.andThen (kept.unregisterPage holds present untouched) ?_
      intro result unregistered known
      have rest : (DmaSpace.unmapInterruptPage platform page >>= fun _ =>
          pure { (session.withPage (some page)).dma with interruptPage := none }).Yields
            unregistered fun space after => space = (session.withPage none).dma ∧
              account.holds (ledger.withPage none none) after := by
        refine Logged.Yields.andThen (kept.unmapInterruptPage known rfl rfl) ?_
        exact fun _ _ unmapped => Logged.Yields.pure ⟨rfl, unmapped⟩
      cases result with
      | ok _ => exact rest
      | error failure => exact Logged.Yields.afterNote rest

theorem register (kept : account.Kept platform files session request plan)
    (holds : account.holds ledger world)
    (phase : ledger.phase = .staging ∨ ledger.phase = .registering)
    (untouched : ledger.loose = none) {descriptor : FileFd} {address : HostAddress} {length : Nat}
    (mapped : .mapping descriptor address length ∈ ledger.stack)
    (unregistered : ∀ size, .buffer address size ∉ ledger.stack) :
    ((session.withPage ledger.page).dma.register platform address length).Yields world
      fun outcome after => match outcome.1 with
        | .ok registration => registration = ⟨address, length⟩ ∧
            account.accepts (.mapDma (ledger.registered + 1)) ∧
            ∃ page, outcome.2 = (session.withPage page).dma ∧ account.holds
              ((ledger.countRegistration.push (.buffer address length)).withPage page none) after
        | .error failure => account.rejects (.mapDma (ledger.registered + 1)) failure ∧
            outcome.2 = (session.withPage ledger.page).dma ∧
            account.holds ledger.countRegistration after := by
  unfold DmaSpace.register
  refine Logged.Yields.andThen (kept.mapDma holds phase mapped unregistered) ?_
  intro result registered known
  cases result with
  | error failure => exact Logged.Yields.pure ⟨known.1, rfl, known.2⟩
  | ok _ =>
      have held : account.holds (ledger.countRegistration.push (.buffer address length))
          registered := known.2
      have ensures := kept.ensureInterruptPage held rfl untouched
      refine Logged.Yields.andThen ensures ?_
      intro space after ⟨page, same, held⟩
      exact Logged.Yields.pure ⟨rfl, known.1, page, same, held⟩

theorem unregister (kept : account.Kept platform files session request plan)
    (holds : account.holds ledger world) (untouched : ledger.loose = none)
    {address : HostAddress} {length : Nat} {rest : List Holding}
    (top : ledger.stack = .buffer address length :: rest) :
    ((session.withPage ledger.page).dma.unregister platform ⟨address, length⟩).Yields world
      fun space after => space = (session.withPage none).dma ∧
        account.holds ((ledger.release rest).withPage none none) after := by
  unfold DmaSpace.unregister
  refine Logged.Yields.andThen (kept.unmapDma holds top) ?_
  intro result after removed
  have releases := kept.releaseInterruptPage removed untouched
  cases result with
  | ok _ => exact releases
  | error failure => exact Logged.Yields.afterNote releases

theorem withRegistered (kept : account.Kept platform files session request plan)
    (holds : account.holds ledger world)
    (phase : ledger.phase = .staging ∨ ledger.phase = .registering)
    (untouched : ledger.loose = none) (unopened : ledger.channel = .unopened)
    {file : Session.StagedFile}
    (mapped : .mapping file.descriptor file.address file.length ∈ ledger.stack)
    (unregistered : ∀ size, .buffer file.address size ∉ ledger.stack)
    {current : Session Portal} (shown : current = session.withPage ledger.page)
    {work : Registration → Session Portal → Logged World (Result α × Session Portal)}
    {steps : List Fault}
    (works : ∀ page registered,
      account.holds ((ledger.countRegistration.push (.buffer file.address file.length)).withPage
        page none) registered →
      (work ⟨file.address, file.length⟩ (session.withPage page)).Yields registered
        (account.Ends session steps ((ledger.countRegistration.push
          (.buffer file.address file.length)).withPage page none))) :
    (current.withRegistered platform file work).Yields world
      (account.Ends session (.mapDma (ledger.registered + 1) :: steps) ledger) := by
  have shut : ∀ token, ledger.channel ≠ .opened token := by
    rw [unopened]
    exact nofun
  subst shown
  unfold Session.withRegistered
  refine Logged.Yields.andThen
    (kept.register holds phase untouched mapped unregistered) ?_
  intro ⟨result, space⟩ registered known
  cases result with
  | error failure =>
      obtain ⟨rejected, same, held⟩ := known
      cases same
      exact Logged.Yields.pure ⟨ledger.countRegistration, held,
        ⟨rfl, Or.inl rfl, untouched, shut⟩, rfl, .stop nofun rejected⟩
  | ok registration =>
      obtain ⟨made, accepted, page, same, held⟩ := known
      cases made
      cases same
      refine Logged.Yields.andThen (works page registered held) ?_
      intro ⟨value, session'⟩ worked ⟨last, held, returns, session'_eq, outcome⟩
      have top : last.stack = .buffer file.address file.length :: ledger.stack := returns.stack
      cases session'_eq
      refine Logged.Yields.andThen (kept.unregister held returns.loose top) ?_
      intro space after ⟨same, released⟩
      cases same
      refine Logged.Yields.pure ⟨_, released, ?_, rfl, .pass accepted outcome⟩
      exact ⟨rfl, Or.inr rfl, rfl, returns.channel⟩

/-! ### The firmware's part -/

theorem withChannel (kept : account.Kept platform files session request plan)
    (atRest : session.withToken none = session) (holds : account.holds ledger world)
    (phase : ledger.phase ≠ .releasing) (untouched : ledger.loose = none)
    (unopened : ledger.channel = .unopened) (operation : String)
    {calls : Token → Act World α} {steps : List Fault}
    (works : ∀ token opened,
      account.holds (ledger.call.withChannel (.opened token)) opened →
      (calls token).Yields opened fun result after => ∃ tile,
        account.holds ((ledger.call.withChannel (.opened token)).withTile tile) after ∧
        account.Outcome steps ledger.tile (Result.failure? result) tile) :
    ((session.withPage ledger.page).withChannel platform operation calls).Yields world
      (account.Ends session (.firmwareOpen :: (steps ++ [.firmwareClose])) ledger) := by
  have shut : ∀ token, ledger.channel ≠ .opened token := by
    rw [unopened]
    exact nofun
  have settled (token : Token) :
      (((session.withPage ledger.page).withToken (some token)).withToken none) =
        session.withPage ledger.page := by
    have same := congrArg (Session.withPage · ledger.page) atRest
    exact same
  have calling (token : Token) (opened : World)
      (known : account.accepts .firmwareOpen ∧
        account.holds (ledger.call.withChannel (.opened token)) opened) :
      (calls token).Yields opened fun result after => account.accepts .firmwareOpen ∧ ∃ tile,
        account.holds ((ledger.call.withChannel (.opened token)).withTile tile) after ∧
        account.Outcome steps ledger.tile (Result.failure? result) tile :=
    (works token opened known.2).mono fun _ _ worked => ⟨known.1, worked⟩
  refine Session.yields_withChannel operation (kept.openSession holds phase unopened) ?_
    calling ?_
  · rintro failure opened ⟨rejected, held⟩
    refine ⟨ledger.call, held, ?_, rfl, .stop nofun rejected⟩
    exact ⟨rfl, Or.inl rfl, untouched, shut⟩
  · rintro token result called ⟨accepted, tile, held, outcome⟩
    refine (kept.closeSession held rfl rfl).mono ?_
    intro closed after known
    have returns : ledger.Returns
        ((((ledger.call.withChannel (.opened token)).withTile tile)).withChannel .closed) :=
      ⟨rfl, Or.inl rfl, untouched, nofun⟩
    have released : account.holds
        ((((ledger.call.withChannel (.opened token)).withTile tile)).withChannel .closed)
          after := by
      cases closed with
      | ok _ => exact known.2
      | error failure => exact known.2
    refine ⟨_, released, returns, settled token, .pass accepted ?_⟩
    cases result with
    | ok value =>
        cases closed with
        | ok _ => exact outcome.append (.pass known.1 (.done _))
        | error failure => exact outcome.append (.stop nofun known.1)
    | error earlier =>
        cases closed with
        | ok _ => exact outcome.cut _
        | error failure => exact outcome.cut _

theorem resetFirst (kept : account.Kept platform files session request plan)
    (holds : account.holds ledger world) (phase : ledger.phase = .calling) {token : Token}
    (opened : ledger.channel = .opened token) (page : Option HostAddress) :
    (Act.ofLogged ((session.withPage page).resetFirst platform token)).Yields world
      fun result after => result = .ok () ∧
        ((account.accepts .reset ∧ account.holds (ledger.withTile .resetDone) after) ∨
          ((∃ failure, account.rejects .reset failure) ∧ account.holds ledger after)) := by
  unfold Session.resetFirst
  apply Act.Yields.ofLogged
  refine Logged.Yields.andThen (kept.resetTile holds phase opened) ?_
  intro result after known
  cases result with
  | ok _ => exact Logged.Yields.pure ⟨rfl, Or.inl known⟩
  | error failure => exact Logged.Yields.note ⟨rfl, Or.inr ⟨⟨failure, known.1⟩, known.2⟩⟩

private theorem loadThenRun (kept : account.Kept platform files session request plan)
    (holds : account.holds ledger world) (phase : ledger.phase = .calling) {token : Token}
    (opened : ledger.channel = .opened token) {address : HostAddress}
    (offered : ledger.Offers request.image plan.imageLength address)
    {arguments : Option (HostAddress × UInt32)}
    (passed : ledger.OffersArguments request plan arguments) :
    Act.Yields (do
        platform.request session.portal (.load token
          { address := UInt64.ofNat address.value, size := plan.imageLength, options := 0 })
        platform.request session.portal (.run token (RunConfig.allCores (arguments.map
          fun (address, size) => (UInt64.ofNat address.value, size)))))
      world fun result after => ∃ tile, account.holds (ledger.withTile tile) after ∧
        account.Outcome [.load, .run] ledger.tile (Result.failure? result) tile := by
  refine Act.Yields.andThen (kept.loadTile holds phase opened offered) ?_ ?_
  · intro failure after ⟨rejected, held⟩
    exact ⟨ledger.tile, held, .stop nofun rejected⟩
  · intro _ loaded ⟨accepted, held⟩
    refine Act.Yields.mono (kept.runTile held phase opened rfl passed) ?_
    intro result after known
    cases result with
    | ok _ => exact ⟨.running, known.2, .pass accepted (.pass known.1 (.done _))⟩
    | error failure => exact ⟨.loadDone, known.2, .pass accepted (.stop nofun known.1)⟩

end Account.Kept

def LoadRequest.firmwareSteps (request : LoadRequest) : List Fault :=
  .firmwareOpen :: ((if request.reset then [.reset] else []) ++ [.load, .run] ++
    [.firmwareClose])

/-- Every step of a load that can fail it, and the reset, in their order. Files, mappings and
registrations are counted from those made before. -/
def LoadRequest.steps (request : LoadRequest) (opened mapped registered : Nat) : List Fault :=
  match request.arguments with
  | none =>
      [.openFile (opened + 1), .mapFile (mapped + 1), .mapDma (registered + 1)] ++
        request.firmwareSteps
  | some _ =>
      [.openFile (opened + 1), .mapFile (mapped + 1), .openFile (opened + 2),
        .mapFile (mapped + 2), .mapDma (registered + 1), .mapDma (registered + 2)] ++
        request.firmwareSteps

namespace Account.Kept

variable {account : Account World} {platform : Platform World Portal} {files : FileTree}
  {session : Session Portal} {request : LoadRequest} {plan : LoadPlan} {ledger : Ledger}
  {world : World}

theorem startImage (kept : account.Kept platform files session request plan)
    (atRest : session.withToken none = session) (holds : account.holds ledger world)
    (phase : ledger.phase ≠ .releasing) (untouched : ledger.loose = none)
    (unopened : ledger.channel = .unopened) {image : Registration}
    (offered : ledger.Offers request.image plan.imageLength image.address)
    {arguments : Option (Registration × UInt32)}
    (passed : ledger.OffersArguments request plan
      (arguments.map fun (registration, size) => (registration.address, size))) :
    ((session.withPage ledger.page).startImage platform request.reset plan.imageLength image
      arguments).Yields world (account.Ends session request.firmwareSteps ledger) := by
  have config : (arguments.map fun (registration, size) =>
      (UInt64.ofNat registration.deviceAddress.value, size)) =
        (arguments.map fun (registration, size) => (registration.address, size)).map
          fun (address, size) => (UInt64.ofNat address.value, size) := by
    cases arguments <;> rfl
  unfold Session.startImage Session.loadAndRun LoadRequest.firmwareSteps
  rw [config]
  apply kept.withChannel atRest holds phase untouched unopened "load"
  intro token opened held
  cases request.reset with
  | false => exact kept.loadThenRun held rfl rfl offered passed
  | true =>
      refine Act.Yields.andThen (kept.resetFirst held rfl rfl ledger.page) ?_ ?_
      · exact fun failure _ ⟨impossible, _⟩ => nomatch impossible
      · intro _ settled ⟨_, known⟩
        rcases known with ⟨accepted, fresh⟩ | ⟨⟨failure, rejected⟩, same⟩
        · refine Act.Yields.mono (kept.loadThenRun fresh rfl rfl offered passed) ?_
          exact fun result after ⟨tile, ended, outcome⟩ => ⟨tile, ended, .pass accepted outcome⟩
        · refine Act.Yields.mono (kept.loadThenRun same rfl rfl offered passed) ?_
          exact fun result after ⟨tile, ended, outcome⟩ => ⟨tile, ended, .skip rejected outcome⟩

/-- Both files are staged before the first of them is registered. -/
theorem carryOut (kept : account.Kept platform files session request plan)
    (sound : request.Sound plan files) (atRest : session.AtRest) {opened mapped registered : Nat}
    {tile : TileState} (holds : account.holds (Ledger.start opened mapped registered tile) world) :
    (session.carryOut platform request plan).Yields world
      (account.Ends session (request.steps opened mapped registered)
        (Ledger.start opened mapped registered tile)) := by
  have still := atRest.withPage_none
  have both := sound.both
  unfold Session.carryOut LoadRequest.steps
  cases path : request.arguments with
  | none =>
      have alone : plan.argumentLength = none := by
        rw [path] at both
        exact Option.not_isSome_iff_eq_none.mp (by rw [← both]; exact nofun)
      rw [alone]
      apply kept.withStaged still holds rfl (Nat.zero_le 2) rfl rfl rfl sound.image
        sound.imageShort
      intro descriptor address staged held
      apply kept.withRegistered held (Or.inl rfl) rfl rfl List.mem_cons_self
        (by simp [Ledger.staged, Ledger.push, Ledger.countOpen, Ledger.countMap, Ledger.start])
        still.symm
      intro page imaged held
      refine kept.startImage atRest.withToken_none held nofun rfl rfl ?_ alone
      refine ⟨descriptor, ⟨?_, ?_⟩, List.mem_cons_self⟩
      · exact List.mem_cons_of_mem _ (List.mem_cons_of_mem _ List.mem_cons_self)
      · exact List.mem_cons_of_mem _ List.mem_cons_self
  | some argumentPath =>
      obtain ⟨size, given⟩ : ∃ size, plan.argumentLength = some size := by
        rw [path] at both
        exact Option.isSome_iff_exists.mp both.symm
      obtain ⟨sized, short⟩ := sound.arguments argumentPath size path given
      rw [given]
      apply kept.withStaged still holds rfl (Nat.zero_le 2) rfl rfl rfl sound.image
        sound.imageShort
      intro descriptor address staged held
      apply kept.withStaged still held rfl (Nat.le_refl 2) rfl rfl rfl sized
        (Nat.le_trans short (by decide))
      intro argumentDescriptor argumentAddress staged held
      have apart : address ≠ argumentAddress := by
        rintro rfl
        exact kept.apart held rfl descriptor (Staging.stagedLength plan.imageLength.toNat)
          (List.mem_cons_of_mem _ List.mem_cons_self)
      apply kept.withRegistered held (Or.inl rfl) rfl rfl
        (List.mem_cons_of_mem _ (List.mem_cons_of_mem _ List.mem_cons_self))
        (by simp [Ledger.staged, Ledger.push, Ledger.countOpen, Ledger.countMap, Ledger.start])
        still.symm
      intro page imaged held
      apply kept.withRegistered held (Or.inr rfl) rfl rfl
        (List.mem_cons_of_mem _ List.mem_cons_self)
        (by simp [Ledger.staged, Ledger.push, Ledger.countOpen, Ledger.countMap, Ledger.start,
          Ledger.withPage, Ledger.countRegistration, apart.symm]) rfl
      intro page passed held
      refine kept.startImage atRest.withToken_none held nofun rfl rfl ?_
        ⟨argumentPath, path, given, ?_⟩
      · refine ⟨descriptor, ⟨?_, ?_⟩, ?_⟩
        · simp [Ledger.staged, Ledger.push, Ledger.countOpen, Ledger.countMap, Ledger.start,
            Ledger.withPage, Ledger.countRegistration]
        · simp [Ledger.staged, Ledger.push, Ledger.countOpen, Ledger.countMap, Ledger.start,
            Ledger.withPage, Ledger.countRegistration]
        · exact List.mem_cons_of_mem _ List.mem_cons_self
      · refine ⟨argumentDescriptor, ⟨?_, ?_⟩, List.mem_cons_self⟩
        · simp [Ledger.staged, Ledger.push, Ledger.countOpen, Ledger.countMap, Ledger.start,
            Ledger.withPage, Ledger.countRegistration]
        · simp [Ledger.staged, Ledger.push, Ledger.countOpen, Ledger.countMap, Ledger.start,
            Ledger.withPage, Ledger.countRegistration]

/-- A load whose request is accepted gives back what it takes, and its steps tell its outcome. -/
theorem load (kept : account.Kept platform files session request plan)
    (accepted : request.plan files = .ok plan) (atRest : session.AtRest)
    {opened mapped registered : Nat} {tile : TileState}
    (holds : account.holds (Ledger.start opened mapped registered tile) world) :
    (session.load platform files request).Yields world
      (account.Ends session (request.steps opened mapped registered)
        (Ledger.start opened mapped registered tile)) := by
  unfold Session.load
  rw [accepted]
  refine Logged.Yields.andThen
    (kept.carryOut (LoadRequest.sound_of_plan accepted) atRest holds) ?_
  intro ⟨result, session'⟩ after ends
  cases result with
  | ok _ => exact Logged.Yields.pure ends
  | error failure => exact Logged.Yields.afterNote (Logged.Yields.pure ends)

end Account.Kept

theorem Session.load_of_refused {session : Session Portal} {platform : Platform World Portal}
    {files : FileTree} {request : LoadRequest} {failure : DriverError}
    (refused : request.plan files = .error failure) :
    session.load platform files request =
      (Logged.error failure.message >>= fun _ => pure (.error failure, session)) := by
  unfold Session.load
  rw [refused]

end Passthrough
