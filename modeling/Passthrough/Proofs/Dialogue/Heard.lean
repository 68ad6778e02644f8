import Passthrough.Proofs.Session.Reflection

set_option autoImplicit false

/-! Listening in on the firmware. An overheard platform does what the platform does, and writes
down every exchange with the firmware in the order in which they took place. Nothing
else is written down, so that files are staged and registered in silence. -/

namespace Passthrough

/-- A call to the firmware and what came of it. -/
structure Exchange where
  call : Call
  result : Result call.Reply

/-- A world, and what was said to the firmware so far, the oldest first. -/
structure Heard (World : Type) where
  world : World
  exchanges : List Exchange

variable {World Portal α : Type}

namespace Heard

def unsaid (action : Logged World α) : Logged (Heard World) α :=
  fun start =>
    let ended := action ⟨start.world.world, start.log⟩
    (ended.1, { world := { start.world with world := ended.2.world }, log := ended.2.log })

def aside (action : Act World α) : Act (Heard World) α :=
  ExceptT.mk (unsaid action.outcome)

def said (call : Call) (action : Act World call.Reply) : Act (Heard World) call.Reply :=
  ExceptT.mk fun start =>
    let ended := action.outcome ⟨start.world.world, start.log⟩
    let exchange : Exchange := { call := call, result := ended.1 }
    (ended.1,
      { world :=
          { world := ended.2.world, exchanges := start.world.exchanges ++ [exchange] }
        log := ended.2.log })

end Heard

def Platform.overheard (platform : Platform World Portal) : Platform (Heard World) Portal :=
  { containerGroup := fun container => Heard.aside (platform.containerGroup container)
    groupDevices := fun group => Heard.aside (platform.groupDevices group)
    openGroup := fun group => Heard.aside (platform.openGroup group)
    groupViable := fun group => Heard.aside (platform.groupViable group)
    setContainer := fun group container =>
      Heard.aside (platform.setContainer group container)
    unsetContainer := fun group => Heard.aside (platform.unsetContainer group)
    openContainer := Heard.aside platform.openContainer
    apiVersion := fun container => Heard.aside (platform.apiVersion container)
    hasType1Iommu := fun container => Heard.aside (platform.hasType1Iommu container)
    setIommu := fun container => Heard.aside (platform.setIommu container)
    deviceFd := fun group name => Heard.aside (platform.deviceFd group name)
    deviceInfo := fun device => Heard.aside (platform.deviceInfo device)
    mapPortal := fun device => Heard.aside (platform.mapPortal device)
    mapDma := fun container host device length =>
      Heard.aside (platform.mapDma container host device length)
    unmapDma := fun container device length =>
      Heard.aside (platform.unmapDma container device length)
    openFile := fun path => Heard.aside (platform.openFile path)
    mapFile := fun file length => Heard.aside (platform.mapFile file length)
    mapDevice := fun device offset length =>
      Heard.aside (platform.mapDevice device offset length)
    unmap := fun address length => Heard.aside (platform.unmap address length)
    close := fun descriptor => Heard.aside (platform.close descriptor)
    request := fun portal call => Heard.said call (platform.request portal call)
    window := platform.window
    dropPortal := fun portal => Heard.unsaid (platform.dropPortal portal) }

theorem Platform.overheard_reflects (platform : Platform World Portal) :
    platform.overheard.Reflects Heard.world platform where
  openFile _ _ := rfl
  mapFile _ _ _ := rfl
  mapDevice _ _ _ _ := rfl
  mapDma _ _ _ _ _ := rfl
  unmapDma _ _ _ _ := rfl
  unmap _ _ _ := rfl
  close _ _ := rfl
  request _ _ _ := rfl

theorem Platform.yields_overheard (platform : Platform World Portal) (portal : Portal)
    (call : Call) (heard : Heard World) :
    (platform.overheard.request portal call).Yields heard fun result after =>
      after.exchanges = heard.exchanges ++ [⟨call, result⟩] :=
  fun _ => rfl

def Logged.Silent (action : Logged (Heard World) α) : Prop :=
  ∀ heard, action.Yields heard fun _ after => after.exchanges = heard.exchanges

theorem Logged.Mirrors.silent {plain : Logged World α} {action : Logged (Heard World) α}
    (mirrors : ∀ exchanges, plain.Mirrors (fun world => ⟨world, exchanges⟩) action) :
    action.Silent := by
  intro heard log
  have same : action ⟨heard, log⟩ = _ := mirrors heard.exchanges ⟨heard.world, log⟩
  rw [same]
  rfl

namespace Platform

variable (platform : Platform World Portal)

theorem overheard_staging (exchanges : List Exchange) :
    platform.ReflectsStaging (fun world => (⟨world, exchanges⟩ : Heard World))
      platform.overheard where
  openFile _ _ := rfl
  mapFile _ _ _ := rfl
  mapDevice _ _ _ _ := rfl
  mapDma _ _ _ _ _ := rfl
  unmapDma _ _ _ _ := rfl
  unmap _ _ _ := rfl
  close _ _ := rfl

theorem silent_stage (path : String) (length : Nat) :
    (Session.stage platform.overheard path length).outcome.Silent :=
  Logged.Mirrors.silent fun exchanges => (platform.overheard_staging exchanges).stage path length

theorem silent_unstage (file : Session.StagedFile) :
    (Session.unstage platform.overheard file).Silent :=
  Logged.Mirrors.silent fun exchanges => (platform.overheard_staging exchanges).unstage file

theorem silent_register (space : DmaSpace) (address : HostAddress) (length : Nat) :
    (space.register platform.overheard address length).Silent :=
  Logged.Mirrors.silent fun exchanges =>
    (platform.overheard_staging exchanges).register space address length

theorem silent_unregister (space : DmaSpace) (registration : Registration) :
    (space.unregister platform.overheard registration).Silent :=
  Logged.Mirrors.silent fun exchanges =>
    (platform.overheard_staging exchanges).unregister space registration

end Platform

end Passthrough
