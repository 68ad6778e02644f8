import Passthrough.Proofs.Session.ChannelRule
import Passthrough.Proofs.Session.InUse
import Passthrough.Proofs.Session.LoadCourse
import Passthrough.Proofs.Tile.Effects

set_option autoImplicit false

/-! What a session keeps that only calls the firmware. Whatever every single call leaves true of
a world, the probe and the tasks leave true that are made of such calls. -/

namespace Passthrough

variable {World Portal α β : Type} {fine : World → Prop}

def Act.Keeps (fine : World → Prop) (action : Act World α) : Prop :=
  ∀ world, fine world → action.Yields world fun _ after => fine after

namespace Act.Keeps

theorem pure (value : α) : Act.Keeps fine (Pure.pure value : Act World α) :=
  fun _ well => Act.Yields.pure well

theorem bind {action : Act World α} {next : α → Act World β} (first : action.Keeps fine)
    (rest : ∀ value, (next value).Keeps fine) : Act.Keeps fine (action >>= next) := by
  intro world well
  refine Act.Yields.andThen (first world well) (fun _ _ well => well) ?_
  exact fun value reached well => rest value reached well

end Act.Keeps

def Tool.Task.Calls : Tool.Task → Call → Prop
  | .load _, call => call.sparesTime = true
  | .reset, call => call.spares = true ∨ ∃ token, call = .reset token
  | .setTimeOfDay time, call => call.spares = true ∨ ∃ token, call = .setTimeOfDay token time
  | .status, call => call.spares = true
  | .timeOfDay, call => call.spares = true

theorem Tool.Task.calls_of_spares (task : Task) {call : Call} (spares : call.spares = true) :
    task.Calls call := by
  cases task with
  | load request =>
      cases call with
      | setTimeOfDay => cases spares
      | _ => rfl
  | reset => exact Or.inl spares
  | setTimeOfDay time => exact Or.inl spares
  | status => exact spares
  | timeOfDay => exact spares

namespace Session

variable {platform : Platform World Portal} {session : Session Portal}

theorem keeps_probe
    (asks : ∀ call : Call, call.spares = true →
      (platform.request session.portal call).Keeps fine) :
    (session.probe platform).Keeps fine := by
  unfold probe
  refine (asks _ rfl).bind fun token opened well => Act.Yields.ofLogged ?_
  refine Logged.Yields.andThen (asks (.attributes token) rfl opened well) ?_
  intro result asked well
  have closes := asks (.closeSession token) rfl asked well
  cases result with
  | ok _ =>
      refine Logged.Yields.andThen closes ?_
      intro closed after well
      cases closed with
      | ok _ => exact Logged.Yields.pure well
      | error failure => exact Logged.Yields.note well
  | error failure =>
      refine Logged.Yields.afterNote (Logged.Yields.andThen closes ?_)
      intro closed after well
      cases closed with
      | ok _ => exact Logged.Yields.pure well
      | error failure => exact Logged.Yields.note well

theorem keeps_withChannel (atRest : session.withToken none = session) (operation : String)
    {calls : Token → Act World α}
    (opens : (platform.request session.portal
      (.openSession session.devices.accelerator.hardwareId)).Keeps fine)
    (works : ∀ token, (calls token).Keeps fine)
    (closes : ∀ token, (platform.request session.portal (.closeSession token)).Keeps fine)
    {world : World} (well : fine world) :
    (session.withChannel platform operation calls).Yields world fun outcome after =>
      fine after ∧ outcome.2 = session := by
  refine yields_withChannel operation (opens world well) (fun _ _ well => ⟨well, rfl⟩)
    (fun token _ well => works token _ well) ?_
  intro token result called well
  exact (closes token called well).mono fun _ _ well => ⟨well, atRest⟩

/-- A task that stages no files leaves true what its calls do, and the session as it was. -/
theorem keeps_operate (atRest : session.withToken none = session) (files : Files.FileTree)
    {task : Tool.Task} (unstaged : ∀ request, task ≠ .load request)
    (asks : ∀ call, task.Calls call → (platform.request session.portal call).Keeps fine)
    {world : World} (well : fine world) :
    (task.operate platform files session).Yields world fun outcome after =>
      fine after ∧ outcome.2 = session := by
  have opens (hardwareId : UInt32) := asks (.openSession hardwareId) (task.calls_of_spares rfl)
  have closes (token : Token) := asks (.closeSession token) (task.calls_of_spares rfl)
  cases task with
  | load request => exact absurd rfl (unstaged request)
  | reset =>
      exact keeps_withChannel atRest "reset" (opens _)
        (fun token => asks (.reset token) (Or.inr ⟨token, rfl⟩)) closes well
  | status =>
      refine keeps_withChannel atRest "status" (opens _) (fun token => ?_) closes well
      refine (asks (.attributes token) rfl).bind fun attributes => ?_
      refine (asks (.serviceLayerVersion token) rfl).bind fun serviceLayer => ?_
      exact (asks (.state token) rfl).bind fun state => .pure _
  | timeOfDay =>
      exact keeps_withChannel atRest "get_time_of_day" (opens _)
        (fun token => asks (.timeOfDay token) rfl) closes well
  | setTimeOfDay time =>
      exact keeps_withChannel atRest "set_time_of_day" (opens _)
        (fun token => asks (.setTimeOfDay token time) (Or.inr ⟨token, rfl⟩)) closes well

end Session

end Passthrough
