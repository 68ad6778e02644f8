import Passthrough.Proofs.Dialogue.Heard

set_option autoImplicit false

/-! What an operation may say to the firmware. A script lists the calls of an operation under
the token of its firmware session. It is spoken line by line; the first line that is needed
and fails cuts the rest, and is the failure of the whole. A dialogue is one firmware
session: it is opened, the script is spoken, and it is closed whatever came of that. -/

namespace Passthrough

/-- A call, and whether its failure cuts what follows. -/
structure Line where
  call : Call
  needed : Bool

inductive Spoken : List Line → List Exchange → Option DriverError → Prop where
  | finished : Spoken [] [] none
  | answered {call : Call} {needed : Bool} {rest : List Line} {said : List Exchange}
      {verdict : Option DriverError} (reply : call.Reply) (later : Spoken rest said verdict) :
      Spoken (⟨call, needed⟩ :: rest) (⟨call, .ok reply⟩ :: said) verdict
  | ignored {call : Call} {rest : List Line} {said : List Exchange}
      {verdict : Option DriverError} (failure : DriverError) (later : Spoken rest said verdict) :
      Spoken (⟨call, false⟩ :: rest) (⟨call, .error failure⟩ :: said) verdict
  | cut {call : Call} {rest : List Line} (failure : DriverError) :
      Spoken (⟨call, true⟩ :: rest) [⟨call, .error failure⟩] (some failure)

namespace Spoken

variable {lines more : List Line} {said later : List Exchange} {verdict : Option DriverError}

theorem append (spoken : Spoken lines said none) (next : Spoken more later verdict) :
    Spoken (lines ++ more) (said ++ later) verdict := by
  generalize uncut : none = ending at spoken
  induction spoken with
  | finished => exact next
  | answered reply _ ih => exact .answered reply (ih uncut)
  | ignored failure _ ih => exact .ignored failure (ih uncut)
  | cut failure => cases uncut

theorem leaveOut {failure : DriverError} (spoken : Spoken lines said (some failure))
    (more : List Line) : Spoken (lines ++ more) said (some failure) := by
  generalize failed : some failure = ending at spoken
  induction spoken with
  | finished => cases failed
  | answered reply _ ih => exact .answered reply (ih failed)
  | ignored failure _ ih => exact .ignored failure (ih failed)
  | cut failure => exact .cut failure

theorem calls_prefix (spoken : Spoken lines said verdict) :
    said.map Exchange.call <+: lines.map Line.call := by
  induction spoken with
  | finished => exact List.prefix_rfl
  | answered reply _ ih => exact (List.prefix_cons_inj _).mpr ih
  | ignored failure _ ih => exact (List.prefix_cons_inj _).mpr ih
  | cut failure => exact (List.prefix_cons_inj _).mpr List.nil_prefix

end Spoken

structure Call.Within (call : Call) (token : Token) : Prop where
  token : call.token = token
  opens : ∀ hardwareId, call ≠ .openSession hardwareId
  closes : ∀ other, call ≠ .closeSession other

abbrev Script := Token → List Line

def Script.Within (script : Script) : Prop :=
  ∀ token, ∀ line ∈ script token, line.call.Within token

/-- One firmware session with a tile. Its failure is that of opening, else the one that cut the
script, else that of closing. -/
inductive Converses (hardwareId : UInt32) (script : Script) :
    List Exchange → Option DriverError → Prop where
  | refused (failure : DriverError) :
      Converses hardwareId script [⟨.openSession hardwareId, .error failure⟩] (some failure)
  | held {said : List Exchange} {verdict : Option DriverError} (token : Token)
      (spoken : Spoken (script token) said verdict)
      (within : ∀ exchange ∈ said, exchange.call.Within token) (closed : Result Unit) :
      Converses hardwareId script
        (⟨.openSession hardwareId, .ok token⟩ :: said ++ [⟨.closeSession token, closed⟩])
        (verdict.or closed.failure?)

theorem Spoken.within {script : Script} {token : Token} {said : List Exchange}
    {verdict : Option DriverError} (spoken : Spoken (script token) said verdict)
    (within : script.Within) : ∀ exchange ∈ said, exchange.call.Within token := by
  intro exchange member
  have listed := spoken.calls_prefix.subset (List.mem_map_of_mem member)
  obtain ⟨line, inScript, same⟩ := List.mem_map.mp listed
  rw [← same]
  exact within token line inScript

variable {World Portal α β : Type}

def Act.Speaks (action : Act (Heard World) α) (lines : List Line) : Prop :=
  ∀ heard, action.Yields heard fun result after =>
    ∃ said, after.exchanges = heard.exchanges ++ said ∧ Spoken lines said result.failure?

namespace Act.Speaks

theorem pure (value : α) : Act.Speaks (Pure.pure value : Act (Heard World) α) [] :=
  fun heard => Act.Yields.pure ⟨[], (List.append_nil heard.exchanges).symm, .finished⟩

theorem bind {action : Act (Heard World) α} {next : α → Act (Heard World) β}
    {lines more : List Line} (first : action.Speaks lines)
    (rest : ∀ value, (next value).Speaks more) :
    Act.Speaks (action >>= next) (lines ++ more) := by
  intro heard
  refine Act.Yields.andThen (first heard) ?_ ?_
  · rintro failure after ⟨said, added, spoken⟩
    exact ⟨said, added, spoken.leaveOut more⟩
  · rintro value middle ⟨said, added, spoken⟩
    refine (rest value middle).mono ?_
    rintro result after ⟨later, follows, next⟩
    refine ⟨said ++ later, ?_, spoken.append next⟩
    rw [follows, added, List.append_assoc]

variable (platform : Platform World Portal) (portal : Portal)

theorem request (call : Call) :
    (platform.overheard.request portal call).Speaks [⟨call, true⟩] := by
  intro heard
  refine (platform.yields_overheard portal call heard).mono ?_
  intro result after added
  refine ⟨_, added, ?_⟩
  cases result with
  | ok reply => exact .answered reply .finished
  | error failure => exact .cut failure

theorem resetFirst (session : Session Portal) (token : Token) :
    (Act.ofLogged (session.resetFirst platform.overheard token)).Speaks
      [⟨.reset token, false⟩] := by
  intro heard
  apply Act.Yields.ofLogged
  unfold Session.resetFirst
  refine Logged.Yields.andThen
    (platform.yields_overheard session.portal (.reset token) heard) ?_
  intro result after added
  cases result with
  | ok reply =>
      have spoken : Spoken [⟨.reset token, false⟩] [⟨.reset token, .ok reply⟩] none :=
        .answered reply .finished
      exact Logged.Yields.pure ⟨_, added, spoken⟩
  | error failure =>
      have spoken : Spoken [⟨.reset token, false⟩] [⟨.reset token, .error failure⟩] none :=
        .ignored failure .finished
      exact Logged.Yields.note ⟨_, added, spoken⟩

end Act.Speaks

end Passthrough
