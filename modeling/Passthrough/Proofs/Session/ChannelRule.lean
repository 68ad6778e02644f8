import Passthrough.Proofs.Action.Yields
import Passthrough.Session.Channel

set_option autoImplicit false

/-! The rule of a firmware session. What an operation comes to that makes calls under a token
follows from what opening, the calls, and closing come to. A failure of the calls goes
before one of closing. -/

namespace Passthrough

variable {World Portal α : Type}

/-- What is left of a result once the firmware session is closed behind it. -/
def Result.andClosed (result : Result α) (closed : Result Unit) : Result α :=
  match closed with
  | .ok _ => result
  | .error failure =>
      match result with
      | .ok _ => .error failure
      | .error earlier => .error earlier

theorem Result.failure?_andClosed (result : Result α) (closed : Result Unit) :
    (result.andClosed closed).failure? = result.failure?.or closed.failure? := by
  cases result <;> cases closed <;> rfl

theorem Session.yields_withChannel {platform : Platform World Portal} {session : Session Portal}
    {world : World} {opened : Result Token → World → Prop}
    {called : Token → Result α → World → Prop}
    {after : Result α × Session Portal → World → Prop} (operation : String)
    {calls : Token → Act World α}
    (opens : (platform.request session.portal
      (.openSession session.devices.accelerator.hardwareId)).Yields world opened)
    (refused : ∀ failure reached, opened (.error failure) reached →
      after (.error failure, session) reached)
    (works : ∀ token reached, opened (.ok token) reached →
      (calls token).Yields reached (called token))
    (closes : ∀ token result reached, called token result reached →
      (platform.request session.portal (.closeSession token)).Yields reached fun closed ended =>
        after (result.andClosed closed, (session.withToken (some token)).withToken none) ended) :
    (session.withChannel platform operation calls).Yields world after := by
  unfold Session.withChannel
  refine Logged.Yields.andThen opens ?_
  intro result reached known
  cases result with
  | error failure => exact Logged.Yields.afterNote (Logged.Yields.pure (refused _ _ known))
  | ok token =>
      refine Logged.Yields.andThen (works token reached known) ?_
      intro result reached known
      have closes := closes token result reached known
      cases result with
      | ok value =>
          refine Logged.Yields.andThen closes ?_
          intro closed ended known
          cases closed with
          | ok _ => exact Logged.Yields.pure known
          | error failure => exact Logged.Yields.afterNote (Logged.Yields.pure known)
      | error earlier =>
          refine Logged.Yields.afterNote (Logged.Yields.andThen closes ?_)
          intro closed ended known
          cases closed with
          | ok _ => exact Logged.Yields.pure known
          | error failure => exact Logged.Yields.afterNote (Logged.Yields.pure known)

end Passthrough
