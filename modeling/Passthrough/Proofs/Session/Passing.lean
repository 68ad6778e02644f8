import Passthrough.Proofs.Session.ChannelFrame
import Passthrough.Proofs.Session.InUse
import Passthrough.Proofs.Session.LoadUnwind

set_option autoImplicit false

/-! What a task leaves of a machine on which nothing keeps it from giving back what it takes: all
tables are as before, but for those of the firmware, which it has visited at most once. -/

namespace Passthrough

variable {World Portal : Type} {machine : World → Simulator}

structure Simulator.Passing (before after : Simulator) : Prop where
  fresh : after.Fresh
  descriptors : after.descriptors = before.descriptors
  attachments : after.attachments = before.attachments
  mappings : after.mappings = before.mappings
  registrations : after.registrations = before.registrations
  attributes : after.tile.attributes = before.tile.attributes
  visit : before.Visit after

theorem Simulator.Visited.passing {before after : Simulator} (visited : before.Visited after)
    (fresh : before.Fresh) : before.Passing after := by
  obtain ⟨change, visit⟩ := visited
  refine ⟨?_, ?_, ?_, ?_, ?_, change.attributes, visit⟩
  · exact fresh.change (.firmware change)
  all_goals rw [change.same]

namespace Platform.Fronts

variable {platform : Platform World Portal} {files : Files.FileTree}
  {refusable : Operation → Prop} {session : Session Portal}

/-- A task that stages no files only visits the firmware. -/
theorem visits (fronts : platform.Fronts machine files refusable) (atRest : session.AtRest)
    {task : Tool.Task} (unstaged : ∀ request, task ≠ .load request) (world : World) :
    (task.operate platform files session).Yields world fun outcome after =>
      (machine world).Visited (machine after) ∧ outcome.2 = session := by
  have asks (call : Call) := Act.Talks.request fronts session.portal call
  cases task with
  | load request => exact absurd rfl (unstaged request)
  | reset =>
      exact fronts.withChannel atRest "reset" (fun token => asks (.reset token) fun _ => rfl) world
  | status =>
      refine fronts.withChannel atRest "status" (fun token => ?_) world
      refine (asks (.attributes token) fun _ => rfl).bind fun attributes => ?_
      refine (asks (.serviceLayerVersion token) fun _ => rfl).bind fun serviceLayer => ?_
      exact (asks (.state token) fun _ => rfl).bind fun state => .pure _
  | timeOfDay =>
      exact fronts.withChannel atRest "get_time_of_day"
        (fun token => asks (.timeOfDay token) fun _ => rfl) world
  | setTimeOfDay time =>
      exact fronts.withChannel atRest "set_time_of_day"
        (fun token => asks (.setTimeOfDay token time) fun _ => rfl) world

theorem passes (fronts : platform.Fronts machine files refusable) (atRest : session.AtRest)
    (closes : ¬ refusable (.closeKind .file)) (unmaps : ¬ refusable .unmap)
    (unregisters : ¬ refusable .unmapDma) (task : Tool.Task) {world : World}
    (fresh : (machine world).Fresh) :
    (task.operate platform files session).Yields world fun outcome after =>
      (machine world).Passing (machine after) ∧ outcome.2 = session := by
  have visiting (unstaged : ∀ request, task ≠ .load request) :
      (task.operate platform files session).Yields world fun outcome after =>
        (machine world).Passing (machine after) ∧ outcome.2 = session :=
    (fronts.visits atRest unstaged world).mono
      fun _ _ known => ⟨known.1.passing fresh, known.2⟩
  cases task with
  | load request =>
      intro log
      obtain ⟨last, descriptors, mappings, registrations, shut, custody, same⟩ :=
        load_custody fronts atRest request ⟨world, log⟩ fresh
      refine ⟨⟨custody.fresh, ?_, custody.attachments, ?_, ?_, custody.attributes,
        custody.visit shut⟩, same⟩
      · exact (descriptors ▸ custody.descriptors).eq_base closes
      · exact (mappings ▸ custody.mappings).eq_base unmaps
      · exact (registrations ▸ custody.registrations).eq_base unregisters
  | _ => exact visiting (by rintro _ ⟨⟩)

end Platform.Fronts

end Passthrough
