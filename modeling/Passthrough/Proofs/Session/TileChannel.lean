import Passthrough.Proofs.Platform.Fronts
import Passthrough.Proofs.Session.ChannelRule
import Passthrough.Proofs.Tile.Effects
import Passthrough.Session.Channel

set_option autoImplicit false

/-! What operations on a session make of the tile, and what they say of it, on any platform in
front of a simulated machine. A new time or a reset takes effect once the firmware session
is open, whatever becomes of closing it; and what is reported is the tile as it is. -/

namespace Passthrough

open Simulator (Answers)

variable {World Portal α : Type} {platform : Platform World Portal} {machine : World → Simulator}
  {files : Files.FileTree} {refusable : Operation → Prop}

theorem Result.ok_of_andClosed {result : Result α} {closed : Result Unit} {value : α}
    (whole : result.andClosed closed = .ok value) : result = .ok value := by
  cases closed with
  | ok _ => exact whole
  | error failure => cases result <;> cases whole

namespace Platform.Fronts

/-- Whatever is asked of the firmware is answered by one of its rules. -/
theorem answers (fronts : platform.Fronts machine files refusable) (portal : Portal) (call : Call)
    (world : World) :
    (platform.request portal call).Yields world fun result after => ∃ next portals,
      (machine world).Answers call result next ∧ machine after = next.withPortals portals := by
  refine (fronts.request portal call world).mono ?_
  rintro result after ⟨rfl, portals, reached⟩
  exact ⟨_, portals, ((machine world).answers_iff call _ _).mpr rfl, reached⟩

theorem tile_of_spares (fronts : platform.Fronts machine files refusable) (portal : Portal)
    {call : Call} (spares : call.spares = true) (world : World) :
    (platform.request portal call).Yields world fun _ after =>
      (machine after).tile = (machine world).tile := by
  refine (fronts.request portal call world).mono ?_
  rintro result after ⟨-, portals, reached⟩
  rw [reached]
  exact Simulator.tile_serve_of_spares spares _

theorem faults_eq (fronts : platform.Fronts machine files refusable) (portal : Portal) (call : Call)
    (world : World) :
    (platform.request portal call).Yields world fun _ after =>
      (machine after).faults = (machine world).faults := by
  refine (fronts.request portal call world).mono ?_
  rintro result after ⟨-, portals, reached⟩
  rw [reached, ((Simulator.serve_change (machine world) call).withPortals portals).same]

theorem fails_withChannel (fronts : platform.Fronts machine files refusable)
    (session : Session Portal) (operation : String) {calls : Token → Act World α} {world : World}
    (fault : (machine world).has .firmwareClose = true)
    (works : ∀ token reached, (machine reached).faults = (machine world).faults →
      (calls token).Yields reached fun _ after =>
        (machine after).faults = (machine world).faults) :
    (session.withChannel platform operation calls).Yields world fun outcome _ =>
      ∃ failure, outcome.1 = .error failure := by
  refine Session.yields_withChannel operation (fronts.faults_eq session.portal _ world)
    (fun failure _ _ => ⟨failure, rfl⟩) works ?_
  intro token result reached faults
  refine (fronts.answers session.portal (.closeSession token) reached).mono ?_
  rintro closed after ⟨next, portals, answers, -⟩
  have refused : ∃ failure, closed = .error failure := by
    cases answers with
    | closed _ known =>
        have injected : (machine reached).has .firmwareClose = true := by
          rw [Simulator.has, faults]
          exact fault
        rw [if_pos injected]
        exact ⟨_, rfl⟩
    | closeUnknown _ unknown => exact ⟨_, rfl⟩
    | locked _ working => cases working
    | hindered _ fault status known row => cases row
  obtain ⟨failure, rfl⟩ := refused
  cases result with
  | ok _ => exact ⟨failure, rfl⟩
  | error earlier => exact ⟨earlier, rfl⟩

theorem fails_setTimeOfDay (fronts : platform.Fronts machine files refusable)
    (session : Session Portal) (time : UInt64) {world : World}
    (fault : (machine world).has .firmwareClose = true) :
    (session.setTimeOfDay platform time).Yields world fun outcome _ =>
      ∃ failure, outcome.1 = .error failure :=
  fronts.fails_withChannel session "set_time_of_day" fault fun token reached faults =>
    (fronts.faults_eq session.portal (.setTimeOfDay token time) reached).mono
      fun _ _ same => same.trans faults

theorem fails_reset (fronts : platform.Fronts machine files refusable) (session : Session Portal)
    {world : World} (fault : (machine world).has .firmwareClose = true) :
    (session.reset platform).Yields world fun outcome _ =>
      ∃ failure, outcome.1 = .error failure :=
  fronts.fails_withChannel session "reset" fault fun token reached faults =>
    (fronts.faults_eq session.portal (.reset token) reached).mono
      fun _ _ same => same.trans faults

theorem reports (fronts : platform.Fronts machine files refusable) (portal : Portal) (call : Call)
    (spares : call.spares = true) {tile : Tile} {told : call.Reply}
    (shown : tile.shown call = some told) {world : World} (now : (machine world).tile = tile) :
    (platform.request portal call).Yields world fun result after =>
      (machine after).tile = tile ∧ ∀ reply, result = .ok reply → reply = told := by
  cases now
  refine ((fronts.tile_of_spares portal spares world).and
    (fronts.answers portal call world)).mono ?_
  rintro result after ⟨same, next, portals, answers, -⟩
  refine ⟨same, ?_⟩
  rintro reply rfl
  exact (answers.truthful shown).1

theorem reports_withChannel (fronts : platform.Fronts machine files refusable)
    (session : Session Portal) (operation : String) {calls : Token → Act World α} {told : α}
    (world : World)
    (reports : ∀ token reached, (machine reached).tile = (machine world).tile →
      (calls token).Yields reached fun result _ => ∀ value, result = .ok value → value = told) :
    (session.withChannel platform operation calls).Yields world fun outcome _ =>
      ∀ value, outcome.1 = .ok value → value = told := by
  refine Session.yields_withChannel operation (fronts.tile_of_spares session.portal rfl world)
    (fun _ _ _ => nofun) reports ?_
  intro token result reached known
  refine (fronts.answers session.portal (.closeSession token) reached).mono ?_
  exact fun _ _ _ value whole => known value (Result.ok_of_andClosed whole)

theorem reports_status (fronts : platform.Fronts machine files refusable)
    (session : Session Portal) (world : World) :
    (session.status platform).Yields world fun outcome _ =>
      ∀ report, outcome.1 = .ok report → report = (machine world).tile.status := by
  refine fronts.reports_withChannel session "status" world fun token opened now => ?_
  refine Act.Yields.andThen (fronts.reports session.portal (.attributes token) rfl rfl now)
    (fun _ _ _ => nofun) ?_
  rintro attributes asked ⟨now, known⟩
  cases known attributes rfl
  refine Act.Yields.andThen
    (fronts.reports session.portal (.serviceLayerVersion token) rfl rfl now)
    (fun _ _ _ => nofun) ?_
  rintro serviceLayer asked ⟨now, known⟩
  cases known serviceLayer rfl
  refine Act.Yields.andThen (fronts.reports session.portal (.state token) rfl rfl now)
    (fun _ _ _ => nofun) ?_
  rintro state asked ⟨-, known⟩
  cases known state rfl
  refine Act.Yields.pure ?_
  rintro _ ⟨⟩
  rfl

theorem reports_timeOfDay (fronts : platform.Fronts machine files refusable)
    (session : Session Portal) (world : World) :
    (session.timeOfDay platform).Yields world fun outcome _ =>
      ∀ time, outcome.1 = .ok time → time = (machine world).tile.timeOfDay := by
  refine fronts.reports_withChannel session "get_time_of_day" world fun token opened now => ?_
  exact (fronts.reports session.portal (.timeOfDay token) rfl rfl now).mono
    fun _ _ known => known.2

/-- A firmware session opens on the tile that it is asked for, unless a fault is injected. -/
theorem opens_own (fronts : platform.Fronts machine files refusable) (portal : Portal)
    {hardwareId : UInt32} {world : World}
    (own : hardwareId = (machine world).tile.attributes.id) :
    (platform.request portal (.openSession hardwareId)).Yields world fun result after =>
      (machine after).tile = (machine world).tile ∧
        (machine after).faults = (machine world).faults ∧
        if (machine world).has .firmwareOpen then ∃ failure, result = .error failure
        else ∃ token : Token, result = .ok token ∧ token.number ∈ (machine after).sessions := by
  refine (fronts.answers portal _ world).mono ?_
  rintro result after ⟨next, portals, answers, reached⟩
  rw [reached]
  cases answers with
  | openFault _ fault =>
      rw [if_pos fault]
      exact ⟨rfl, rfl, _, rfl⟩
  | openForeign _ sound foreign => exact absurd own foreign
  | opened _ token sound own number next =>
      rw [sound, if_neg Bool.false_ne_true]
      exact ⟨rfl, rfl, _, rfl, Std.ExtTreeSet.mem_insert_self⟩
  | locked _ working => cases working
  | hindered _ fault status known row => cases row

/-- What the call of an operation makes of the tile stays, whatever comes of closing. -/
theorem changes_withChannel (fronts : platform.Fronts machine files refusable)
    (session : Session Portal) (operation : String) (calls : Token → Act World α) (fault : Fault)
    (changed : Tile) {world : World}
    (own : session.devices.accelerator.hardwareId = (machine world).tile.attributes.id)
    (works : ∀ (token : Token) (reached : World), token.number ∈ (machine reached).sessions →
      (machine reached).tile = (machine world).tile →
      (machine reached).faults = (machine world).faults →
      (calls token).Yields reached fun _ after => (machine after).tile =
        if (machine world).has fault then (machine world).tile else changed) :
    (session.withChannel platform operation calls).Yields world fun _ after =>
      (machine after).tile =
        if (machine world).has .firmwareOpen || (machine world).has fault then
          (machine world).tile
        else changed := by
  have opens := fronts.opens_own session.portal own
  have working (token : Token) (reached : World)
      (known : (machine reached).tile = (machine world).tile ∧
        (machine reached).faults = (machine world).faults ∧
        if (machine world).has .firmwareOpen then
          ∃ failure, (Except.ok token : Result Token) = .error failure
        else ∃ opened : Token, (Except.ok token : Result Token) = .ok opened ∧
          opened.number ∈ (machine reached).sessions) :
      (calls token).Yields reached fun _ after => (machine after).tile =
        if (machine world).has .firmwareOpen || (machine world).has fault then
          (machine world).tile
        else changed := by
    obtain ⟨same, faults, known⟩ := known
    split at known
    · obtain ⟨_, impossible⟩ := known
      cases impossible
    · next sound =>
        obtain ⟨_, handed, opened⟩ := known
        cases handed
        rw [Bool.eq_false_iff.mpr sound, Bool.false_or]
        exact works token reached opened same faults
  refine Session.yields_withChannel operation opens ?_ working ?_
  · rintro failure reached ⟨same, -, known⟩
    split at known
    · next fault => rw [fault, Bool.true_or, if_pos rfl, same]
    · obtain ⟨_, impossible, -⟩ := known
      cases impossible
  · intro token result reached settled
    exact (fronts.tile_of_spares session.portal rfl reached).mono fun _ _ same =>
      same.trans settled

theorem changes_setTimeOfDay (fronts : platform.Fronts machine files refusable)
    (session : Session Portal) (time : UInt64) {world : World}
    (own : session.devices.accelerator.hardwareId = (machine world).tile.attributes.id) :
    (session.setTimeOfDay platform time).Yields world fun _ after =>
      (machine after).tile =
        if (machine world).has .firmwareOpen || (machine world).has .setTimeOfDay then
          (machine world).tile
        else { (machine world).tile with timeOfDay := time } := by
  refine fronts.changes_withChannel session _ _ .setTimeOfDay _ own ?_
  intro token reached opened same faults
  refine (fronts.request session.portal _ reached).mono ?_
  rintro _ after ⟨-, portals, left⟩
  have served := Simulator.tile_serve_setTimeOfDay opened time
  rw [Simulator.has, faults, same] at served
  rw [left]
  exact served

theorem changes_reset (fronts : platform.Fronts machine files refusable)
    (session : Session Portal) {world : World}
    (own : session.devices.accelerator.hardwareId = (machine world).tile.attributes.id) :
    (session.reset platform).Yields world fun _ after =>
      (machine after).tile =
        if (machine world).has .firmwareOpen || (machine world).has .reset then
          (machine world).tile
        else { (machine world).tile with state := .resetDone } := by
  refine fronts.changes_withChannel session _ _ .reset _ own ?_
  intro token reached opened same faults
  refine (fronts.request session.portal _ reached).mono ?_
  rintro _ after ⟨-, portals, left⟩
  have served := Simulator.tile_serve_reset opened
  rw [Simulator.has, faults, same] at served
  rw [left]
  exact served

end Platform.Fronts

end Passthrough
