import Passthrough.Proofs.Action.Yields
import Passthrough.Proofs.Session.Plan
import Passthrough.Session.Load
import Passthrough.Simulator.State

set_option autoImplicit false

/-! The books of a load. A ledger says what a load holds, the newest first, and how far it
has come: files are staged, then registered, then the firmware is called, and from
the first release on nothing but releases follows. The interrupt page is kept on an
account of its own. An account says what a ledger means in a world and which faults a step
may meet; it is kept on a platform when every operation moves it as the rules say.
The course of a load is then the same on every such platform. -/

namespace Passthrough

open Files (FileTree)

inductive Holding where
  | file (path : String) (descriptor : FileFd)
  | mapping (descriptor : FileFd) (address : HostAddress) (length : Nat)
  | buffer (address : HostAddress) (length : Nat)
  deriving DecidableEq

inductive LoadPhase where
  | staging
  | registering
  | calling
  | releasing
  deriving DecidableEq

inductive LoadChannel where
  | unopened
  | opened (token : Token)
  | closed
  deriving DecidableEq

structure Ledger where
  phase : LoadPhase
  stack : List Holding
  /-- The interrupt page while it is registered. -/
  page : Option HostAddress
  /-- The interrupt page while it is mapped and nothing more. -/
  loose : Option HostAddress
  channel : LoadChannel
  /-- How many files were asked for so far, how many mappings, and how many registrations. -/
  opened : Nat
  mapped : Nat
  registered : Nat
  tile : TileState

namespace Ledger

def start (opened mapped registered : Nat) (tile : TileState) : Ledger :=
  { phase := .staging
    stack := []
    page := none
    loose := none
    channel := .unopened
    opened := opened
    mapped := mapped
    registered := registered
    tile := tile }

def push (ledger : Ledger) (holding : Holding) : Ledger :=
  { ledger with stack := holding :: ledger.stack }

def countOpen (ledger : Ledger) : Ledger :=
  { ledger with opened := ledger.opened + 1 }

def countMap (ledger : Ledger) : Ledger :=
  { ledger with mapped := ledger.mapped + 1 }

def countRegistration (ledger : Ledger) : Ledger :=
  { ledger with phase := .registering, registered := ledger.registered + 1 }

def call (ledger : Ledger) : Ledger :=
  { ledger with phase := .calling }

def release (ledger : Ledger) (rest : List Holding) : Ledger :=
  { ledger with phase := .releasing, stack := rest }

def withPage (ledger : Ledger) (page loose : Option HostAddress) : Ledger :=
  { ledger with page := page, loose := loose }

def withChannel (ledger : Ledger) (channel : LoadChannel) : Ledger :=
  { ledger with channel := channel }

def withTile (ledger : Ledger) (tile : TileState) : Ledger :=
  { ledger with tile := tile }

def Stages (ledger : Ledger) (path : String) (file : Session.StagedFile) : Prop :=
  .file path file.descriptor ∈ ledger.stack ∧
    .mapping file.descriptor file.address file.length ∈ ledger.stack

/-- A file is open, mapped and registered, with room behind its contents. -/
def Offers (ledger : Ledger) (path : String) (size : UInt32) (address : HostAddress) : Prop :=
  ∃ descriptor, ledger.Stages path ⟨descriptor, address, Staging.stagedLength size.toNat⟩ ∧
    .buffer address (Staging.stagedLength size.toNat) ∈ ledger.stack

def OffersArguments (ledger : Ledger) (request : LoadRequest) (plan : LoadPlan) :
    Option (HostAddress × UInt32) → Prop
  | none => plan.argumentLength = none
  | some (address, size) => ∃ path, request.arguments = some path ∧
      plan.argumentLength = some size ∧ ledger.Offers path size address

/-- A piece of a load gave back what it took, and left no firmware session open. -/
structure Returns (before after : Ledger) : Prop where
  stack : after.stack = before.stack
  page : after.page = before.page ∨ after.page = none
  loose : after.loose = none
  channel : ∀ token, after.channel ≠ .opened token

end Ledger

/-- What a step that is accepted makes of the tile. -/
def Fault.settle (step : Fault) (tile : TileState) : TileState :=
  match step with
  | .reset => .resetDone
  | .load => .loadDone
  | .run => .running
  | _ => tile

/-- What a ledger means in a world, and what becomes known when a step passes or fails. -/
structure Account (World : Type) where
  holds : Ledger → World → Prop
  accepts : Fault → Prop
  rejects : Fault → DriverError → Prop

namespace Account

variable {World Portal α : Type}

def Settles (account : Account World) (step : Fault) (failed : Ledger) (done : α → Ledger) :
    Result α → World → Prop
  | .ok value, world => account.accepts step ∧ account.holds (done value) world
  | .error failure, world => account.rejects step failure ∧ account.holds failed world

/-- An operation that no outcome depends on: it was done, or it was not. -/
def Moves (account : Account World) (failed : Ledger) (done : α → Ledger) :
    Result α → World → Prop
  | .ok value, world => account.holds (done value) world
  | .error _, world => account.holds failed world

/-- How a list of steps ends: with the first failure, or with none. A reset that fails is passed
over. -/
inductive Outcome (account : Account World) :
    List Fault → TileState → Option DriverError → TileState → Prop where
  | done (tile : TileState) : Outcome account [] tile none tile
  | pass {step : Fault} {rest : List Fault} {tile last : TileState}
      {failure : Option DriverError} (accepted : account.accepts step)
      (later : Outcome account rest (step.settle tile) failure last) :
      Outcome account (step :: rest) tile failure last
  | stop {step : Fault} {rest : List Fault} {tile : TileState} {failure : DriverError}
      (counts : step ≠ .reset) (rejected : account.rejects step failure) :
      Outcome account (step :: rest) tile (some failure) tile
  | skip {rest : List Fault} {tile last : TileState} {passed : DriverError}
      {failure : Option DriverError} (rejected : account.rejects .reset passed)
      (later : Outcome account rest tile failure last) :
      Outcome account (.reset :: rest) tile failure last

theorem Outcome.cut {account : Account World} {steps : List Fault} {tile last : TileState}
    {failure : DriverError} (outcome : account.Outcome steps tile (some failure) last)
    (more : List Fault) : account.Outcome (steps ++ more) tile (some failure) last := by
  generalize told : some failure = ending at outcome
  induction outcome with
  | done tile => cases told
  | pass accepted _ ih => exact .pass accepted (ih told)
  | stop counts rejected => exact .stop counts rejected
  | skip rejected _ ih => exact .skip rejected (ih told)

theorem Outcome.append {account : Account World} {steps more : List Fault}
    {tile middle last : TileState} {failure : Option DriverError}
    (outcome : account.Outcome steps tile none middle)
    (later : account.Outcome more middle failure last) :
    account.Outcome (steps ++ more) tile failure last := by
  generalize told : none = ending at outcome
  induction outcome with
  | done tile => exact later
  | pass accepted _ ih => exact .pass accepted (ih later told)
  | stop counts rejected => cases told
  | skip rejected _ ih => exact .skip rejected (ih later told)

variable {account : Account World} {ledger : Ledger} {world : World}

/-- The rules by which an account is kept while a session loads. -/
structure Kept (account : Account World) (platform : Platform World Portal) (files : FileTree)
    (session : Session Portal) (request : LoadRequest) (plan : LoadPlan) : Prop where
  apart {ledger : Ledger} {world : World} (holds : account.holds ledger world)
    {descriptor : FileFd} {address : HostAddress} {length : Nat} {rest : List Holding}
    (top : ledger.stack = .mapping descriptor address length :: rest) :
    ∀ other size, .mapping other address size ∉ rest
  openFile {ledger : Ledger} {world : World} (holds : account.holds ledger world)
    (phase : ledger.phase = .staging) {path : String} {size : Nat}
    (sized : files.HasLength path size) :
    (platform.openFile path).Yields world
      (account.Settles (.openFile (ledger.opened + 1)) ledger.countOpen fun descriptor =>
        ledger.countOpen.push (.file path descriptor))
  mapFile {ledger : Ledger} {world : World} (holds : account.holds ledger world)
    (phase : ledger.phase = .staging) (few : ledger.stack.length ≤ 3) {path : String}
    {descriptor : FileFd} (known : .file path descriptor ∈ ledger.stack) {size : Nat}
    (short : size ≤ Staging.imageLimit) :
    (platform.mapFile descriptor (Staging.stagedLength size)).Yields world
      (account.Settles (.mapFile (ledger.mapped + 1)) ledger.countMap fun address =>
        ledger.countMap.push (.mapping descriptor address (Staging.stagedLength size)))
  closeFile {ledger : Ledger} {world : World} (holds : account.holds ledger world)
    {path : String} {descriptor : FileFd} {rest : List Holding}
    (top : ledger.stack = .file path descriptor :: rest) :
    (platform.close descriptor).Yields world fun _ after =>
      account.holds (ledger.release rest) after
  unmap {ledger : Ledger} {world : World} (holds : account.holds ledger world)
    {descriptor : FileFd} {address : HostAddress} {length : Nat} {rest : List Holding}
    (top : ledger.stack = .mapping descriptor address length :: rest) :
    (platform.unmap address length).Yields world fun _ after =>
      account.holds (ledger.release rest) after
  mapDma {ledger : Ledger} {world : World} (holds : account.holds ledger world)
    (phase : ledger.phase = .staging ∨ ledger.phase = .registering) {descriptor : FileFd}
    {address : HostAddress} {length : Nat}
    (mapped : .mapping descriptor address length ∈ ledger.stack)
    (unregistered : ∀ size, .buffer address size ∉ ledger.stack) :
    (platform.mapDma session.dma.container address address.identity length).Yields world
      (account.Settles (.mapDma (ledger.registered + 1)) ledger.countRegistration fun _ =>
        ledger.countRegistration.push (.buffer address length))
  unmapDma {ledger : Ledger} {world : World} (holds : account.holds ledger world)
    {address : HostAddress} {length : Nat} {rest : List Holding}
    (top : ledger.stack = .buffer address length :: rest) :
    (platform.unmapDma session.dma.container address.identity length).Yields world
      fun _ after => account.holds (ledger.release rest) after
  mapPage {ledger : Ledger} {world : World} (holds : account.holds ledger world)
    (phase : ledger.phase = .registering) (absent : ledger.page = none)
    (untouched : ledger.loose = none) :
    (platform.mapDevice session.dma.interruptSource (UInt64.ofNat Staging.interruptAddress)
      Staging.interruptLength).Yields world
        (account.Moves ledger fun page => ledger.withPage none (some page))
  registerPage {ledger : Ledger} {world : World} (holds : account.holds ledger world)
    (absent : ledger.page = none) {page : HostAddress} (mapped : ledger.loose = some page) :
    (platform.mapDma session.dma.container page DmaSpace.interruptAddress
      Staging.interruptLength).Yields world
        (account.Moves ledger fun _ => ledger.withPage (some page) none)
  unregisterPage {ledger : Ledger} {world : World} (holds : account.holds ledger world)
    {page : HostAddress} (present : ledger.page = some page) (untouched : ledger.loose = none) :
    (platform.unmapDma session.dma.container DmaSpace.interruptAddress
      Staging.interruptLength).Yields world fun _ after =>
        account.holds (ledger.withPage none (some page)) after
  unmapPage {ledger : Ledger} {world : World} (holds : account.holds ledger world)
    (absent : ledger.page = none) {page : HostAddress} (mapped : ledger.loose = some page) :
    (platform.unmap page Staging.interruptLength).Yields world fun _ after =>
      account.holds (ledger.withPage none none) after
  openSession {ledger : Ledger} {world : World} (holds : account.holds ledger world)
    (phase : ledger.phase ≠ .releasing) (unopened : ledger.channel = .unopened) :
    (platform.request session.portal
      (.openSession session.devices.accelerator.hardwareId)).Yields world
        (account.Settles .firmwareOpen ledger.call fun token =>
          ledger.call.withChannel (.opened token))
  resetTile {ledger : Ledger} {world : World} (holds : account.holds ledger world)
    (phase : ledger.phase = .calling) {token : Token} (open_ : ledger.channel = .opened token) :
    (platform.request session.portal (.reset token)).Yields world
      (account.Settles .reset ledger fun _ => ledger.withTile .resetDone)
  loadTile {ledger : Ledger} {world : World} (holds : account.holds ledger world)
    (phase : ledger.phase = .calling) {token : Token} (open_ : ledger.channel = .opened token)
    {address : HostAddress} (offered : ledger.Offers request.image plan.imageLength address) :
    (platform.request session.portal (.load token
      { address := UInt64.ofNat address.value, size := plan.imageLength, options := 0 })).Yields
        world (account.Settles .load ledger fun _ => ledger.withTile .loadDone)
  runTile {ledger : Ledger} {world : World} (holds : account.holds ledger world)
    (phase : ledger.phase = .calling) {token : Token} (open_ : ledger.channel = .opened token)
    (loaded : ledger.tile = .loadDone) {arguments : Option (HostAddress × UInt32)}
    (offered : ledger.OffersArguments request plan arguments) :
    (platform.request session.portal (.run token (RunConfig.allCores (arguments.map
      fun (address, size) => (UInt64.ofNat address.value, size))))).Yields
        world (account.Settles .run ledger fun _ => ledger.withTile .running)
  closeSession {ledger : Ledger} {world : World} (holds : account.holds ledger world)
    (phase : ledger.phase = .calling) {token : Token} (open_ : ledger.channel = .opened token) :
    (platform.request session.portal (.closeSession token)).Yields world
      (account.Settles .firmwareClose (ledger.withChannel .closed) fun _ =>
        ledger.withChannel .closed)

end Account

end Passthrough
