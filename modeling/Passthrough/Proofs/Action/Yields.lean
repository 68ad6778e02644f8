import Passthrough.Action

set_option autoImplicit false

/-! What an operation comes to from a given world. `action.Yields world after` says
that the value and the world at the end stand in the relation `after`, whatever the log
was. The rules below follow the operations one by one; the log is written along
the way and never decides anything, so the rules do not speak of it. -/

namespace Passthrough

variable {World α β : Type}

/-- What is known of a value, and what is known when there is none. -/
def Result.Either (done : α → Prop) (failed : Prop) : Result α → Prop
  | .ok value => done value
  | .error _ => failed

def Result.failure? : Result α → Option DriverError
  | .ok _ => none
  | .error failure => some failure

theorem Result.either_of_forall {done : α → Prop} {failed : Prop} {result : Result α}
    (known : ∀ value, done value) (otherwise : failed) : result.Either done failed := by
  cases result with
  | ok value => exact known value
  | error _ => exact otherwise

theorem Result.Either.imp {done weaker : α → Prop} {failed otherwise : Prop} {result : Result α}
    (known : result.Either done failed) (success : ∀ value, done value → weaker value)
    (failure : failed → otherwise) : result.Either weaker otherwise := by
  cases result with
  | ok value => exact success value known
  | error _ => exact failure known

namespace Logged

theorem run_bind (action : Logged World α) (next : α → Logged World β) (start : Traced World) :
    (action >>= next) start = next (action start).1 (action start).2 :=
  rfl

def Yields (action : Logged World α) (world : World) (after : α → World → Prop) : Prop :=
  ∀ log, after (action ⟨world, log⟩).1 (action ⟨world, log⟩).2.world

theorem Yields.pure {value : α} {world : World} {after : α → World → Prop}
    (holds : after value world) : Yields (Pure.pure value) world after :=
  fun _ => holds

theorem Yields.bind {action : Logged World α} {next : α → Logged World β} {world : World}
    {after : β → World → Prop}
    (first : action.Yields world fun value reached => (next value).Yields reached after) :
    Yields (action >>= next) world after :=
  fun log => first log _

theorem Yields.mono {action : Logged World α} {world : World} {after weaker : α → World → Prop}
    (yields : action.Yields world after)
    (implied : ∀ value reached, after value reached → weaker value reached) :
    action.Yields world weaker :=
  fun log => implied _ _ (yields log)

theorem Yields.and {action : Logged World α} {world : World} {one other : α → World → Prop}
    (first : action.Yields world one) (second : action.Yields world other) :
    action.Yields world fun value reached => one value reached ∧ other value reached :=
  fun log => ⟨first log, second log⟩

theorem Yields.andThen {action : Logged World α} {next : α → Logged World β} {world : World}
    {middle : α → World → Prop} {after : β → World → Prop}
    (first : action.Yields world middle)
    (second : ∀ value reached, middle value reached → (next value).Yields reached after) :
    Yields (action >>= next) world after :=
  Yields.bind (first.mono second)

theorem Yields.note {severity : Severity} {text : String} {world : World}
    {after : Unit → World → Prop} (holds : after () world) :
    Yields (Logged.note severity text) world after :=
  fun _ => holds

theorem Yields.afterNote {severity : Severity} {text : String} {next : Unit → Logged World β}
    {world : World} {after : β → World → Prop} (rest : (next ()).Yields world after) :
    Yields (Logged.note severity text >>= next) world after :=
  Yields.bind (Yields.note rest)

end Logged

namespace Act

theorem outcome_bind (action : Act World α) (next : α → Act World β) :
    (action >>= next).outcome = (action.outcome >>= fun result =>
      match result with
      | .ok value => (next value).outcome
      | .error failure => pure (.error failure)) := by
  apply (ExceptT.run_bind action next).trans
  show bind _ _ = bind _ _
  congr 1
  funext result
  cases result <;> rfl

theorem outcome_onFailure (action : Act World α) (clean : DriverError → Logged World Unit) :
    (action.onFailure clean).outcome = (action.outcome >>= fun result =>
      match result with
      | .ok value => pure (.ok value)
      | .error failure => clean failure >>= fun _ => pure (.error failure)) := rfl

def Yields (action : Act World α) (world : World) (after : Result α → World → Prop) : Prop :=
  action.outcome.Yields world after

theorem Yields.pure {value : α} {world : World} {after : Result α → World → Prop}
    (holds : after (.ok value) world) : Act.Yields (Pure.pure value) world after :=
  fun _ => holds

theorem Yields.throw {failure : DriverError} {world : World} {after : Result α → World → Prop}
    (holds : after (.error failure) world) :
    Act.Yields (MonadExcept.throw failure) world after :=
  fun _ => holds

theorem Yields.ofResult {result : Result α} {world : World} {after : Result α → World → Prop}
    (holds : after result world) : (Act.ofResult result).Yields world after :=
  fun _ => holds

theorem Yields.mono {action : Act World α} {world : World}
    {after weaker : Result α → World → Prop} (yields : action.Yields world after)
    (implied : ∀ result reached, after result reached → weaker result reached) :
    action.Yields world weaker :=
  Logged.Yields.mono yields implied

theorem Yields.andThen {action : Act World α} {next : α → Act World β} {world : World}
    {middle : Result α → World → Prop} {after : Result β → World → Prop}
    (first : action.Yields world middle)
    (failed : ∀ failure reached, middle (.error failure) reached → after (.error failure) reached)
    (done : ∀ value reached, middle (.ok value) reached → (next value).Yields reached after) :
    Act.Yields (action >>= next) world after := by
  unfold Act.Yields
  rw [outcome_bind]
  refine Logged.Yields.andThen first ?_
  intro result reached known
  cases result with
  | ok value => exact done value reached known
  | error failure => exact fun _ => failed failure reached known

theorem Yields.doneThen {action : Act World α} {next : α → Act World β} {world : World} {value : α}
    {middle : World → Prop} {after : Result β → World → Prop}
    (first : action.Yields world fun result reached => result = .ok value ∧ middle reached)
    (rest : ∀ reached, middle reached → (next value).Yields reached after) :
    Act.Yields (action >>= next) world after := by
  refine Yields.andThen first ?_ ?_
  · rintro _ _ ⟨⟨⟩, -⟩
  · rintro _ reached ⟨⟨⟩, known⟩
    exact rest reached known

theorem Yields.throwThen {failure : DriverError} {next : α → Act World β} {world : World}
    {after : Result β → World → Prop} (holds : after (.error failure) world) :
    Act.Yields (MonadExcept.throw failure >>= next) world after :=
  fun _ => holds

theorem Yields.ofLogged {action : Logged World α} {world : World}
    {after : Result α → World → Prop}
    (yields : action.Yields world fun value reached => after (.ok value) reached) :
    (Act.ofLogged action).Yields world after :=
  fun log => yields log

theorem Yields.andThenLogged {action : Logged World α} {next : α → Act World β} {world : World}
    {middle : α → World → Prop} {after : Result β → World → Prop}
    (first : action.Yields world middle)
    (rest : ∀ value reached, middle value reached → (next value).Yields reached after) :
    Act.Yields (Act.ofLogged action >>= next) world after := by
  have lifted : (Act.ofLogged action).Yields world fun result reached =>
      result.Either (fun value => middle value reached) False := Act.Yields.ofLogged first
  exact Act.Yields.andThen lifted (fun _ _ impossible => impossible.elim) rest

/-- Cleaning up keeps the failure, from the world that the failure left. -/
theorem Yields.onFailure {action : Act World α} {clean : DriverError → Logged World Unit}
    {world : World} {middle after : Result α → World → Prop} (first : action.Yields world middle)
    (failed : ∀ failure reached, middle (.error failure) reached →
      (clean failure).Yields reached fun _ cleaned => after (.error failure) cleaned)
    (done : ∀ value reached, middle (.ok value) reached → after (.ok value) reached) :
    (action.onFailure clean).Yields world after := by
  unfold Act.Yields
  rw [outcome_onFailure]
  refine Logged.Yields.andThen first ?_
  intro result reached known
  cases result with
  | ok value => exact Logged.Yields.pure (done value reached known)
  | error failure =>
      exact Logged.Yields.andThen (failed failure reached known)
        fun _ _ cleaned => Logged.Yields.pure cleaned

theorem Yields.needsNoCleaning {action : Act World α} {clean : DriverError → Logged World Unit}
    {world : World} {value : α} {middle : World → Prop}
    (first : action.Yields world fun result reached => result = .ok value ∧ middle reached) :
    (action.onFailure clean).Yields world fun result reached =>
      result = .ok value ∧ middle reached := by
  refine Yields.onFailure first ?_ fun _ _ known => known
  rintro _ _ ⟨⟨⟩, -⟩

/-- A failure is cleaned up and ends the operation; otherwise the next one goes on. -/
theorem Yields.cleanOrThen {action : Act World α} {clean : DriverError → Logged World Unit}
    {next : α → Act World β} {world : World} {middle : Result α → World → Prop}
    {after : Result β → World → Prop} (first : action.Yields world middle)
    (failed : ∀ failure reached, middle (.error failure) reached →
      (clean failure).Yields reached fun _ cleaned => after (.error failure) cleaned)
    (done : ∀ value reached, middle (.ok value) reached → (next value).Yields reached after) :
    Act.Yields (action.onFailure clean >>= next) world after := by
  have guarded : (action.onFailure clean).Yields world fun result reached =>
      match result with
      | .ok value => (next value).Yields reached after
      | .error failure => after (.error failure) reached :=
    Yields.onFailure first failed done
  exact Yields.andThen guarded (fun _ _ known => known) fun _ _ known => known

end Act

end Passthrough
