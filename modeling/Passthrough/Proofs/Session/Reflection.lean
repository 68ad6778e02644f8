import Passthrough.Proofs.Action.Yields
import Passthrough.Session.Load

set_option autoImplicit false

/-! Platforms that differ only in what their worlds carry along. An outer platform reflects an
inner one, through a view of its worlds, when each of its operations comes to what the
inner one comes to. Whatever is built on them then does so too, up to a whole load. -/

namespace Passthrough

variable {Outer Inner Portal α β : Type}

def Traced.viewed (view : Outer → Inner) (start : Traced Outer) : Traced Inner :=
  { world := view start.world, log := start.log }

/-- Both come to the same, but for what the view leaves out. -/
def Logged.Mirrors (outer : Logged Outer α) (view : Outer → Inner) (inner : Logged Inner α) :
    Prop :=
  ∀ start, inner (start.viewed view) = ((outer start).1, (outer start).2.viewed view)

namespace Logged.Mirrors

variable {view : Outer → Inner}

theorem pure (value : α) :
    Logged.Mirrors (Pure.pure value : Logged Outer α) view (Pure.pure value) :=
  fun _ => rfl

theorem note (severity : Severity) (text : String) :
    Logged.Mirrors (Logged.note severity text) view (Logged.note severity text) :=
  fun _ => rfl

theorem bind {outer : Logged Outer α} {inner : Logged Inner α} {outerNext : α → Logged Outer β}
    {innerNext : α → Logged Inner β} (first : outer.Mirrors view inner)
    (next : ∀ value, (outerNext value).Mirrors view (innerNext value)) :
    Logged.Mirrors (outer >>= outerNext) view (inner >>= innerNext) := by
  intro start
  change innerNext (inner (start.viewed view)).1 (inner (start.viewed view)).2 = _
  rw [first start]
  exact next _ _

theorem afterNote {severity : Severity} {text : String} {outer : Unit → Logged Outer β}
    {inner : Unit → Logged Inner β} (rest : (outer ()).Mirrors view (inner ())) :
    Logged.Mirrors (Logged.note severity text >>= outer) view
      (Logged.note severity text >>= inner) :=
  (note severity text).bind fun _ => rest

end Logged.Mirrors

def Act.Mirrors (outer : Act Outer α) (view : Outer → Inner) (inner : Act Inner α) : Prop :=
  Logged.Mirrors outer.outcome view inner.outcome

namespace Act.Mirrors

variable {view : Outer → Inner}

theorem pure (value : α) :
    Act.Mirrors (Pure.pure value : Act Outer α) view (Pure.pure value) :=
  fun _ => rfl

theorem bind {outer : Act Outer α} {inner : Act Inner α} {outerNext : α → Act Outer β}
    {innerNext : α → Act Inner β} (first : outer.Mirrors view inner)
    (next : ∀ value, (outerNext value).Mirrors view (innerNext value)) :
    Act.Mirrors (outer >>= outerNext) view (inner >>= innerNext) := by
  unfold Act.Mirrors
  rw [Act.outcome_bind, Act.outcome_bind]
  refine Logged.Mirrors.bind first fun result => ?_
  cases result with
  | ok value => exact next value
  | error failure => exact Logged.Mirrors.pure _

theorem ofLogged {outer : Logged Outer α} {inner : Logged Inner α}
    (same : outer.Mirrors view inner) : (Act.ofLogged outer).Mirrors view (Act.ofLogged inner) :=
  same.bind fun value => Logged.Mirrors.pure (Except.ok value)

theorem onFailure {outer : Act Outer α} {inner : Act Inner α}
    {outerClean : DriverError → Logged Outer Unit} {innerClean : DriverError → Logged Inner Unit}
    (first : outer.Mirrors view inner)
    (clean : ∀ failure, (outerClean failure).Mirrors view (innerClean failure)) :
    (outer.onFailure outerClean).Mirrors view (inner.onFailure innerClean) := by
  unfold Act.Mirrors
  rw [Act.outcome_onFailure, Act.outcome_onFailure]
  refine Logged.Mirrors.bind first fun result => ?_
  cases result with
  | ok value => exact Logged.Mirrors.pure _
  | error failure => exact (clean failure).bind fun _ => Logged.Mirrors.pure _

end Act.Mirrors

/-- The operations that put files into device-visible memory, each with its counterpart. -/
structure Platform.ReflectsStaging (outer : Platform Outer Portal) (view : Outer → Inner)
    (inner : Platform Inner Portal) : Prop where
  openFile : ∀ path, (outer.openFile path).Mirrors view (inner.openFile path)
  mapFile : ∀ file length, (outer.mapFile file length).Mirrors view (inner.mapFile file length)
  mapDevice : ∀ device offset length,
    (outer.mapDevice device offset length).Mirrors view (inner.mapDevice device offset length)
  mapDma : ∀ container host device length,
    (outer.mapDma container host device length).Mirrors view
      (inner.mapDma container host device length)
  unmapDma : ∀ container device length,
    (outer.unmapDma container device length).Mirrors view
      (inner.unmapDma container device length)
  unmap : ∀ address length, (outer.unmap address length).Mirrors view (inner.unmap address length)
  close : ∀ {kind : DescriptorKind} (descriptor : Descriptor kind),
    (outer.close descriptor).Mirrors view (inner.close descriptor)

structure Platform.Reflects (outer : Platform Outer Portal) (view : Outer → Inner)
    (inner : Platform Inner Portal) : Prop extends outer.ReflectsStaging view inner where
  request : ∀ portal call, (outer.request portal call).Mirrors view (inner.request portal call)

variable {outer : Platform Outer Portal} {view : Outer → Inner} {inner : Platform Inner Portal}

namespace Platform.ReflectsStaging

theorem closeQuietly (reflects : outer.ReflectsStaging view inner) {kind : DescriptorKind}
    (descriptor : Descriptor kind) :
    (outer.closeQuietly descriptor).Mirrors view (inner.closeQuietly descriptor) := by
  unfold Platform.closeQuietly
  refine Logged.Mirrors.bind (reflects.close descriptor) fun result => ?_
  cases result with
  | ok _ => exact Logged.Mirrors.pure _
  | error failure => exact Logged.Mirrors.note _ _

theorem unmapInterruptPage (reflects : outer.ReflectsStaging view inner) (page : HostAddress) :
    (DmaSpace.unmapInterruptPage outer page).Mirrors view
      (DmaSpace.unmapInterruptPage inner page) := by
  unfold DmaSpace.unmapInterruptPage
  refine Logged.Mirrors.bind (reflects.unmap page _) fun result => ?_
  cases result with
  | ok _ => exact Logged.Mirrors.pure _
  | error failure => exact Logged.Mirrors.note _ _

theorem releaseInterruptPage (reflects : outer.ReflectsStaging view inner) (space : DmaSpace) :
    (space.releaseInterruptPage outer).Mirrors view (space.releaseInterruptPage inner) := by
  unfold DmaSpace.releaseInterruptPage
  cases space.interruptPage with
  | none => exact Logged.Mirrors.pure _
  | some page =>
      refine Logged.Mirrors.bind
        (reflects.unmapDma space.container DmaSpace.interruptAddress _) fun result => ?_
      have unmaps := (reflects.unmapInterruptPage page).bind fun _ =>
        Logged.Mirrors.pure { space with interruptPage := none }
      cases result with
      | ok _ => exact unmaps
      | error failure => exact unmaps.afterNote

theorem ensureInterruptPage (reflects : outer.ReflectsStaging view inner) (space : DmaSpace) :
    (space.ensureInterruptPage outer).Mirrors view (space.ensureInterruptPage inner) := by
  unfold DmaSpace.ensureInterruptPage
  cases space.interruptPage with
  | some page => exact Logged.Mirrors.pure _
  | none =>
      refine Logged.Mirrors.bind (reflects.mapDevice space.interruptSource _ _) fun result => ?_
      cases result with
      | error failure => exact (Logged.Mirrors.pure space).afterNote
      | ok page =>
          refine Logged.Mirrors.bind
            (reflects.mapDma space.container page DmaSpace.interruptAddress _) fun result => ?_
          cases result with
          | ok _ => exact Logged.Mirrors.pure _
          | error failure =>
              exact ((reflects.unmapInterruptPage page).bind
                fun _ => Logged.Mirrors.pure space).afterNote

theorem register (reflects : outer.ReflectsStaging view inner) (space : DmaSpace)
    (address : HostAddress) (length : Nat) :
    (space.register outer address length).Mirrors view (space.register inner address length) := by
  unfold DmaSpace.register
  refine Logged.Mirrors.bind
    (reflects.mapDma space.container address address.identity length) fun result => ?_
  cases result with
  | error failure => exact Logged.Mirrors.pure _
  | ok _ => exact (reflects.ensureInterruptPage space).bind fun _ => Logged.Mirrors.pure _

theorem unregister (reflects : outer.ReflectsStaging view inner) (space : DmaSpace)
    (registration : Registration) :
    (space.unregister outer registration).Mirrors view (space.unregister inner registration) := by
  unfold DmaSpace.unregister
  refine Logged.Mirrors.bind
    (reflects.unmapDma space.container registration.deviceAddress registration.length)
      fun result => ?_
  have releases := reflects.releaseInterruptPage space
  cases result with
  | ok _ => exact releases
  | error failure => exact releases.afterNote

theorem stage (reflects : outer.ReflectsStaging view inner) (path : String) (length : Nat) :
    (Session.stage outer path length).Mirrors view (Session.stage inner path length) := by
  unfold Session.stage
  refine Act.Mirrors.bind (reflects.openFile path) fun descriptor => ?_
  refine Act.Mirrors.bind ?_ fun address => Act.Mirrors.pure _
  exact Act.Mirrors.onFailure (reflects.mapFile descriptor length)
    fun _ => reflects.closeQuietly descriptor

theorem unstage (reflects : outer.ReflectsStaging view inner) (file : Session.StagedFile) :
    (Session.unstage outer file).Mirrors view (Session.unstage inner file) := by
  unfold Session.unstage
  refine Logged.Mirrors.bind (reflects.unmap file.address file.length) fun result => ?_
  have closes := reflects.closeQuietly file.descriptor
  cases result with
  | ok _ => exact closes
  | error failure => exact closes.afterNote

end Platform.ReflectsStaging

namespace Platform.Reflects

theorem withChannel (reflects : outer.Reflects view inner) (session : Session Portal)
    (operation : String) {outerCalls : Token → Act Outer α} {innerCalls : Token → Act Inner α}
    (calls : ∀ token, (outerCalls token).Mirrors view (innerCalls token)) :
    (session.withChannel outer operation outerCalls).Mirrors view
      (session.withChannel inner operation innerCalls) := by
  unfold Session.withChannel
  refine Logged.Mirrors.bind (reflects.request session.portal _) fun result => ?_
  cases result with
  | error failure =>
      refine Logged.Mirrors.afterNote ?_
      exact Logged.Mirrors.pure _
  | ok token =>
      refine Logged.Mirrors.bind (calls token) fun result => ?_
      cases result with
      | ok value =>
          refine Logged.Mirrors.bind (reflects.request session.portal _) fun closed => ?_
          cases closed with
          | ok _ => exact Logged.Mirrors.pure _
          | error failure =>
              apply Logged.Mirrors.afterNote
              exact Logged.Mirrors.pure _
      | error earlier =>
          refine Logged.Mirrors.afterNote
            (Logged.Mirrors.bind (reflects.request session.portal _) fun closed => ?_)
          cases closed with
          | ok _ => exact Logged.Mirrors.pure _
          | error failure =>
              apply Logged.Mirrors.afterNote
              exact Logged.Mirrors.pure _

theorem withStaged (reflects : outer.Reflects view inner) {session : Session Portal}
    {path : String} {length : Nat}
    {outerWork : Session.StagedFile → Session Portal → Logged Outer (Result α × Session Portal)}
    {innerWork : Session.StagedFile → Session Portal → Logged Inner (Result α × Session Portal)}
    (work : ∀ file session, (outerWork file session).Mirrors view (innerWork file session)) :
    (session.withStaged outer path length outerWork).Mirrors view
      (session.withStaged inner path length innerWork) := by
  unfold Session.withStaged
  refine Logged.Mirrors.bind (reflects.stage path length) fun result => ?_
  cases result with
  | error failure => exact Logged.Mirrors.pure _
  | ok file =>
      refine Logged.Mirrors.bind (work file session) fun outcome => ?_
      exact (reflects.unstage file).bind fun _ => Logged.Mirrors.pure _

theorem withRegistered (reflects : outer.Reflects view inner) {session : Session Portal}
    {file : Session.StagedFile}
    {outerWork : Registration → Session Portal → Logged Outer (Result α × Session Portal)}
    {innerWork : Registration → Session Portal → Logged Inner (Result α × Session Portal)}
    (work : ∀ registration session,
      (outerWork registration session).Mirrors view (innerWork registration session)) :
    (session.withRegistered outer file outerWork).Mirrors view
      (session.withRegistered inner file innerWork) := by
  unfold Session.withRegistered
  refine Logged.Mirrors.bind
    (reflects.register session.dma file.address file.length) fun registered => ?_
  obtain ⟨result, space⟩ := registered
  cases result with
  | error failure => exact Logged.Mirrors.pure _
  | ok registration =>
      refine Logged.Mirrors.bind (work registration _) fun outcome => ?_
      exact (reflects.unregister outcome.2.dma registration).bind fun _ => Logged.Mirrors.pure _

theorem loadAndRun (reflects : outer.Reflects view inner) (session : Session Portal)
    (reset : Bool) (load : LoadConfig) (run : RunConfig) :
    (session.loadAndRun outer reset load run).Mirrors view
      (session.loadAndRun inner reset load run) := by
  unfold Session.loadAndRun
  refine reflects.withChannel session _ fun token => ?_
  have starts := Act.Mirrors.bind (reflects.request session.portal (.load token load))
    fun _ => reflects.request session.portal (.run token run)
  cases reset with
  | false => exact starts
  | true =>
      refine Act.Mirrors.bind (Act.Mirrors.ofLogged ?_) fun _ => starts
      unfold Session.resetFirst
      refine Logged.Mirrors.bind (reflects.request session.portal _) fun result => ?_
      cases result with
      | ok _ => exact Logged.Mirrors.pure _
      | error failure => exact Logged.Mirrors.note _ _

theorem carryOut (reflects : outer.Reflects view inner) (session : Session Portal)
    (request : LoadRequest) (plan : LoadPlan) :
    (session.carryOut outer request plan).Mirrors view (session.carryOut inner request plan) := by
  unfold Session.carryOut
  refine reflects.withStaged fun image session => ?_
  cases request.arguments with
  | none =>
      refine reflects.withRegistered fun imageDma session => ?_
      exact reflects.loadAndRun session _ _ _
  | some path =>
      cases plan.argumentLength with
      | none =>
          refine reflects.withRegistered fun imageDma session => ?_
          exact reflects.loadAndRun session _ _ _
      | some length =>
          refine reflects.withStaged fun arguments session => ?_
          refine reflects.withRegistered fun imageDma session => ?_
          refine reflects.withRegistered fun argumentsDma session => ?_
          exact reflects.loadAndRun session _ _ _

theorem load (reflects : outer.Reflects view inner) (session : Session Portal)
    (files : Files.FileTree) (request : LoadRequest) :
    (session.load outer files request).Mirrors view (session.load inner files request) := by
  unfold Session.load
  cases request.plan files with
  | error failure =>
      apply Logged.Mirrors.afterNote
      exact Logged.Mirrors.pure _
  | ok plan =>
      refine Logged.Mirrors.bind (reflects.carryOut session request plan) fun outcome => ?_
      obtain ⟨result, left⟩ := outcome
      cases result with
      | ok _ => exact Logged.Mirrors.pure _
      | error failure =>
          apply Logged.Mirrors.afterNote
          exact Logged.Mirrors.pure _

end Platform.Reflects

end Passthrough
