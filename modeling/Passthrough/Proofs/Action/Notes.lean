import Passthrough.Proofs.Action.Yields

set_option autoImplicit false

/-! What an operation adds to the log; the lines that are there always stay. `action.Writes allowed`
bounds the severity of what is added, from any world. `action.Notes world after` relates the
value and the world at the end to whether an error was among the lines, whatever the log held
before. The rules follow the operations one by one, like those of `Yields`. -/

namespace Passthrough

variable {World α β : Type}

def Diagnostic.alarming (lines : List Diagnostic) : Bool :=
  lines.any fun line => line.severity = .error

theorem Diagnostic.alarming_append (lines more : List Diagnostic) :
    alarming (lines ++ more) = (alarming lines || alarming more) :=
  List.any_append

namespace Logged

def Writes (action : Logged World α) (allowed : Severity → Prop) : Prop :=
  ∀ start, ∃ lines, (action start).2.log = start.log ++ lines ∧
    ∀ line ∈ lines, allowed line.severity

abbrev Warns (action : Logged World α) : Prop :=
  action.Writes (· = .warning)

abbrev Grows (action : Logged World α) : Prop :=
  action.Writes fun _ => True

namespace Writes

variable {allowed weaker : Severity → Prop}

theorem pure (value : α) : Writes (Pure.pure value : Logged World α) allowed :=
  fun _ => ⟨[], (List.append_nil _).symm, nofun⟩

theorem note {severity : Severity} (holds : allowed severity) (text : String) :
    (Logged.note severity text : Logged World Unit).Writes allowed := by
  intro start
  refine ⟨[⟨severity, text⟩], rfl, ?_⟩
  intro line member
  cases List.mem_singleton.mp member
  exact holds

theorem warning (text : String) : (Logged.warn text : Logged World Unit).Warns :=
  @note World (· = .warning) .warning rfl text

theorem mono {action : Logged World α} (writes : action.Writes allowed)
    (implied : ∀ severity, allowed severity → weaker severity) : action.Writes weaker := by
  intro start
  obtain ⟨lines, added, known⟩ := writes start
  exact ⟨lines, added, fun line member => implied _ (known line member)⟩

theorem bind {action : Logged World α} {next : α → Logged World β} (first : action.Writes allowed)
    (rest : ∀ value, (next value).Writes allowed) : Writes (action >>= next) allowed := by
  intro start
  obtain ⟨lines, added, known⟩ := first start
  obtain ⟨more, grown, later⟩ := rest (action start).1 (action start).2
  refine ⟨lines ++ more, ?_, ?_⟩
  · rw [run_bind, grown, added, List.append_assoc]
  · intro line member
    rcases List.mem_append.mp member with earlier | last
    · exact known line earlier
    · exact later line last

theorem afterNote {severity : Severity} {text : String} {next : Unit → Logged World β}
    (holds : allowed severity) (rest : (next ()).Writes allowed) :
    Writes (Logged.note severity text >>= next) allowed :=
  (note holds text).bind fun _ => rest

end Writes

namespace Writes

variable {allowed : Severity → Prop}

theorem bindAct {action : Act World α} {next : α → Act World β}
    (first : action.outcome.Writes allowed) (rest : ∀ value, (next value).outcome.Writes allowed) :
    (action >>= next).outcome.Writes allowed := by
  rw [Act.outcome_bind]
  refine first.bind fun result => ?_
  cases result with
  | ok value => exact rest value
  | error failure => exact pure _

theorem onFailure {action : Act World α} {clean : DriverError → Logged World Unit}
    (first : action.outcome.Writes allowed) (cleans : ∀ failure, (clean failure).Writes allowed) :
    (action.onFailure clean).outcome.Writes allowed := by
  rw [Act.outcome_onFailure]
  refine first.bind fun result => ?_
  cases result with
  | ok value => exact pure _
  | error failure => exact (cleans failure).bind fun _ => pure _

end Writes

def Notes (action : Logged World α) (world : World) (after : α → World → Bool → Prop) : Prop :=
  ∀ log, ∃ lines, (action ⟨world, log⟩).2.log = log ++ lines ∧
    after (action ⟨world, log⟩).1 (action ⟨world, log⟩).2.world (Diagnostic.alarming lines)

theorem Writes.notes {action : Logged World α} {world : World} {after : α → World → Prop}
    (warns : action.Warns) (yields : action.Yields world after) :
    action.Notes world fun value reached alarm => alarm = false ∧ after value reached := by
  intro log
  obtain ⟨lines, added, warnings⟩ := warns ⟨world, log⟩
  refine ⟨lines, added, ?_, yields log⟩
  rw [Diagnostic.alarming, List.any_eq_false]
  intro line member
  rw [warnings line member]
  decide

namespace Notes

theorem pure {value : α} {world : World} {after : α → World → Bool → Prop}
    (holds : after value world false) : Notes (Pure.pure value) world after :=
  fun _ => ⟨[], (List.append_nil _).symm, holds⟩

theorem warning {text : String} {world : World} {after : Unit → World → Bool → Prop}
    (holds : after () world false) : Notes (Logged.warn text) world after :=
  fun _ => ⟨[⟨.warning, text⟩], rfl, holds⟩

theorem error {text : String} {world : World} {after : Unit → World → Bool → Prop}
    (holds : after () world true) : Notes (Logged.error text) world after :=
  fun _ => ⟨[⟨.error, text⟩], rfl, holds⟩

theorem mono {action : Logged World α} {world : World} {after weaker : α → World → Bool → Prop}
    (notes : action.Notes world after)
    (implied : ∀ value reached alarm, after value reached alarm → weaker value reached alarm) :
    action.Notes world weaker := by
  intro log
  obtain ⟨lines, added, known⟩ := notes log
  exact ⟨lines, added, implied _ _ _ known⟩

theorem andThen {action : Logged World α} {next : α → Logged World β} {world : World}
    {middle : α → World → Bool → Prop} {after : β → World → Bool → Prop}
    (first : action.Notes world middle)
    (second : ∀ value reached alarm, middle value reached alarm → (next value).Notes reached
      fun result final later => after result final (alarm || later)) :
    Notes (action >>= next) world after := by
  intro log
  obtain ⟨lines, added, known⟩ := first log
  obtain ⟨more, grown, later⟩ := second _ _ _ known (log ++ lines)
  refine ⟨lines ++ more, ?_, ?_⟩
  · rw [run_bind, ← List.append_assoc, ← grown, ← added]
  · rw [run_bind, Diagnostic.alarming_append]
    rw [← added] at later
    exact later

/-- What adds no error leaves that open to the rest. -/
theorem harmlessThen {action : Logged World α} {next : α → Logged World β} {world : World}
    {middle : α → World → Prop} {after : β → World → Bool → Prop}
    (first : action.Notes world fun value reached alarm => alarm = false ∧ middle value reached)
    (second : ∀ value reached, middle value reached → (next value).Notes reached after) :
    Notes (action >>= next) world after := by
  refine andThen first ?_
  rintro value reached _ ⟨rfl, known⟩
  exact second value reached known

theorem warnsThen {action : Logged World α} {next : α → Logged World β} {world : World}
    {after : β → World → Bool → Prop} (warns : action.Warns)
    (second : ∀ value reached, (next value).Notes reached after) :
    Notes (action >>= next) world after := by
  have first : action.Yields world fun _ _ => True := fun _ => trivial
  exact harmlessThen (warns.notes first) fun value reached _ => second value reached

/-- After an error it does not matter what else is added. -/
theorem afterError {text : String} {next : Unit → Logged World β} {world : World}
    {after : β → World → Bool → Prop}
    (rest : (next ()).Notes world fun result final _ => after result final true) :
    Notes (Logged.error text >>= next) world after := by
  have first : (Logged.error text).Notes world fun _ reached alarm =>
      reached = world ∧ alarm = true := error ⟨rfl, rfl⟩
  refine andThen first ?_
  rintro _ _ _ ⟨rfl, rfl⟩
  exact rest

theorem afterWarning {text : String} {next : Unit → Logged World β} {world : World}
    {after : β → World → Bool → Prop} (rest : (next ()).Notes world after) :
    Notes (Logged.warn text >>= next) world after := by
  have first : (Logged.warn text).Notes world fun _ reached alarm =>
      alarm = false ∧ reached = world := warning ⟨rfl, rfl⟩
  refine harmlessThen first ?_
  rintro _ _ rfl
  exact rest

theorem grows {action : Logged World α} {after : World → α → World → Bool → Prop}
    (notes : ∀ world, action.Notes world (after world)) : action.Grows := by
  intro start
  obtain ⟨lines, added, -⟩ := notes start.world start.log
  exact ⟨lines, added, fun _ _ => trivial⟩

end Notes

theorem Writes.anyNotes {action : Logged World α} (grows : action.Grows) (world : World) :
    action.Notes world fun _ _ _ => True := by
  intro log
  obtain ⟨lines, added, -⟩ := grows ⟨world, log⟩
  exact ⟨lines, added, trivial⟩

end Logged

namespace Act

def Notes (action : Act World α) (world : World) (after : Result α → World → Bool → Prop) : Prop :=
  action.outcome.Notes world after

namespace Notes

variable {world : World}

theorem pure {value : α} {after : Result α → World → Bool → Prop}
    (holds : after (.ok value) world false) : Act.Notes (Pure.pure value) world after :=
  Logged.Notes.pure holds

theorem throw {failure : DriverError} {after : Result α → World → Bool → Prop}
    (holds : after (.error failure) world false) :
    Act.Notes (MonadExcept.throw failure) world after :=
  Logged.Notes.pure holds

theorem ofResult {result : Result α} {after : Result α → World → Bool → Prop}
    (holds : after result world false) : (Act.ofResult result).Notes world after :=
  Logged.Notes.pure holds

theorem mono {action : Act World α} {after weaker : Result α → World → Bool → Prop}
    (notes : action.Notes world after)
    (implied : ∀ result reached alarm, after result reached alarm → weaker result reached alarm) :
    action.Notes world weaker :=
  Logged.Notes.mono notes implied

theorem ofLogged {action : Logged World α} {after : Result α → World → Bool → Prop}
    (notes : action.Notes world fun value reached alarm => after (.ok value) reached alarm) :
    (Act.ofLogged action).Notes world after := by
  intro log
  obtain ⟨lines, added, known⟩ := notes log
  exact ⟨lines, added, known⟩

theorem andThen {action : Act World α} {next : α → Act World β}
    {middle : Result α → World → Bool → Prop} {after : Result β → World → Bool → Prop}
    (first : action.Notes world middle)
    (failed : ∀ failure reached alarm, middle (.error failure) reached alarm →
      after (.error failure) reached alarm)
    (done : ∀ value reached alarm, middle (.ok value) reached alarm → (next value).Notes reached
      fun result final later => after result final (alarm || later)) :
    Act.Notes (action >>= next) world after := by
  unfold Act.Notes
  rw [outcome_bind]
  refine Logged.Notes.andThen first ?_
  intro result reached alarm known
  cases result with
  | ok value => exact done value reached alarm known
  | error failure =>
      refine Logged.Notes.pure ?_
      rw [Bool.or_false]
      exact failed failure reached alarm known

theorem andThenLogged {action : Logged World α} {next : α → Act World β}
    {middle : α → World → Bool → Prop} {after : Result β → World → Bool → Prop}
    (first : action.Notes world middle)
    (rest : ∀ value reached alarm, middle value reached alarm → (next value).Notes reached
      fun result final later => after result final (alarm || later)) :
    Act.Notes (Act.ofLogged action >>= next) world after := by
  have lifted : (Act.ofLogged action).Notes world fun result reached alarm =>
      result.Either (fun value => middle value reached alarm) False := Act.Notes.ofLogged first
  exact Act.Notes.andThen lifted (fun _ _ _ impossible => impossible.elim) rest

theorem onFailure {action : Act World α} {clean : DriverError → Logged World Unit}
    {middle after : Result α → World → Bool → Prop} (first : action.Notes world middle)
    (failed : ∀ failure reached alarm, middle (.error failure) reached alarm →
      (clean failure).Notes reached
        fun _ cleaned later => after (.error failure) cleaned (alarm || later))
    (done : ∀ value reached alarm, middle (.ok value) reached alarm →
      after (.ok value) reached alarm) :
    (action.onFailure clean).Notes world after := by
  unfold Act.Notes
  rw [outcome_onFailure]
  refine Logged.Notes.andThen first ?_
  intro result reached alarm known
  cases result with
  | ok value =>
      refine Logged.Notes.pure ?_
      rw [Bool.or_false]
      exact done value reached alarm known
  | error failure =>
      refine Logged.Notes.andThen (failed failure reached alarm known) ?_
      intro _ cleaned later cleared
      refine Logged.Notes.pure ?_
      rw [Bool.or_false]
      exact cleared

end Notes

end Act

/-- The operation leaves true what it finds to be true, and adds no error. -/
def Logged.Upholds (fine : World → Prop) (action : Logged World α) : Prop :=
  ∀ world, fine world → action.Notes world fun _ after alarm => alarm = false ∧ fine after

def Act.Upholds (fine : World → Prop) (action : Act World α) : Prop :=
  action.outcome.Upholds fine

variable {fine : World → Prop}

namespace Logged.Upholds

theorem pure (value : α) : Upholds fine (Pure.pure value : Logged World α) :=
  fun _ well => Notes.pure ⟨rfl, well⟩

theorem warning (text : String) : Upholds fine (Logged.warn text : Logged World Unit) :=
  fun _ well => Notes.warning ⟨rfl, well⟩

theorem bind {action : Logged World α} {next : α → Logged World β} (first : action.Upholds fine)
    (rest : ∀ value, (next value).Upholds fine) : Upholds fine (action >>= next) :=
  fun world well => Notes.harmlessThen (first world well) fun value reached => rest value reached

end Logged.Upholds

namespace Act.Upholds

theorem pure (value : α) : Act.Upholds fine (Pure.pure value : Act World α) :=
  Logged.Upholds.pure _

theorem throwThen (failure : DriverError) (next : α → Act World β) :
    Act.Upholds fine (MonadExcept.throw failure >>= next) :=
  Logged.Upholds.pure _

theorem ofLogged {action : Logged World α} (upholds : action.Upholds fine) :
    (Act.ofLogged action).Upholds fine :=
  upholds.bind fun _ => Logged.Upholds.pure _

theorem bind {action : Act World α} {next : α → Act World β} (first : action.Upholds fine)
    (rest : ∀ value, (next value).Upholds fine) : Act.Upholds fine (action >>= next) := by
  unfold Act.Upholds
  rw [outcome_bind]
  refine Logged.Upholds.bind first fun result => ?_
  cases result with
  | ok value => exact rest value
  | error failure => exact Logged.Upholds.pure _

theorem onFailure {action : Act World α} {clean : DriverError → Logged World Unit}
    (first : action.Upholds fine) (cleans : ∀ failure, (clean failure).Upholds fine) :
    (action.onFailure clean).Upholds fine := by
  unfold Act.Upholds
  rw [outcome_onFailure]
  refine Logged.Upholds.bind first fun result => ?_
  cases result with
  | ok value => exact Logged.Upholds.pure _
  | error failure => exact (cleans failure).bind fun _ => Logged.Upholds.pure _

end Act.Upholds

end Passthrough
