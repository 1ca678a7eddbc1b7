import SignOn.Dialogue

/-!
# Paths through a dialogue

A path leads through a dialogue from its start to one of its ends. It records what happens on the
way, where every request may have any reply. What holds on all paths holds whatever the
collaborators do: a run against any of them follows a path (`Dialogue.run_path`). Paths through a
sequence of two dialogues are the paths through the first, each followed by one through the second
(`Dialogue.path_bind_iff`).
-/

set_option autoImplicit false

namespace SignOn

namespace Dialogue

variable {I : Interface} {α β : Type}

/-- A dialogue can come to a value with a history. -/
inductive Path : Dialogue I α → List (Happening I) → α → Prop where
  | done (value : α) : Path (.done value) [] value
  | log {rest : Dialogue I α} {history : List (Happening I)} {value : α} (event : LogEvent)
      (tail : Path rest history value) : Path (.log event rest) (.logged event :: history) value
  | ask {request : I.Request} {next : Except Error (I.Reply request) → Dialogue I α}
      {history : List (Happening I)} {value : α} (reply : Except Error (I.Reply request))
      (tail : Path (next reply) history value) :
      Path (.ask request next) (.asked request reply :: history) value

/-- At its end nothing more happens in a dialogue. -/
@[simp] theorem path_done_iff {value other : α} {history : List (Happening I)} :
    Path (.done value) history other ↔ history = [] ∧ other = value := by
  constructor
  · intro path
    cases path
    exact ⟨rfl, rfl⟩
  · rintro ⟨rfl, rfl⟩
    exact .done other

/-- A path through a dialogue that logs an event begins with this event. -/
@[simp] theorem path_log_iff {event : LogEvent} {rest : Dialogue I α} {value : α}
    {history : List (Happening I)} :
    Path (.log event rest) history value ↔
      ∃ later, history = .logged event :: later ∧ Path rest later value := by
  constructor
  · intro path
    cases path with
    | log _ tail => exact ⟨_, rfl, tail⟩
  · rintro ⟨later, rfl, tail⟩
    exact .log event tail

/-- A path through a dialogue that asks a request begins with this request and some reply. -/
@[simp] theorem path_ask_iff {request : I.Request}
    {next : Except Error (I.Reply request) → Dialogue I α} {value : α}
    {history : List (Happening I)} :
    Path (.ask request next) history value ↔
      ∃ reply later, history = .asked request reply :: later ∧ Path (next reply) later value := by
  constructor
  · intro path
    cases path with
    | ask reply tail => exact ⟨reply, _, rfl, tail⟩
  · rintro ⟨reply, later, rfl, tail⟩
    exact .ask reply tail

/-- A path through a sequence of two dialogues is one through the first, followed by one through the
second. -/
theorem path_bind_iff {first : Dialogue I α} {next : α → Dialogue I β} {value : β}
    {history : List (Happening I)} :
    Path (first.bind next) history value ↔
      ∃ earlier middle later, history = earlier ++ later ∧ Path first earlier middle ∧
        Path (next middle) later value := by
  induction first generalizing history with
  | done middle =>
    constructor
    · intro path
      exact ⟨[], middle, history, rfl, .done middle, path⟩
    · rintro ⟨_, _, later, rfl, first, second⟩
      obtain ⟨rfl, rfl⟩ := path_done_iff.mp first
      exact second
  | log event rest ih =>
    simp only [log_bind, path_log_iff, ih]
    constructor
    · rintro ⟨_, rfl, earlier, middle, later, rfl, first, second⟩
      exact ⟨_, middle, later, rfl, ⟨_, rfl, first⟩, second⟩
    · rintro ⟨_, middle, later, rfl, ⟨earlier, rfl, first⟩, second⟩
      exact ⟨_, rfl, earlier, middle, later, rfl, first, second⟩
  | ask request continuation ih =>
    simp only [ask_bind, path_ask_iff, ih]
    constructor
    · rintro ⟨reply, _, rfl, earlier, middle, later, rfl, first, second⟩
      exact ⟨_, middle, later, rfl, ⟨reply, _, rfl, first⟩, second⟩
    · rintro ⟨_, middle, later, rfl, ⟨reply, earlier, rfl, first⟩, second⟩
      exact ⟨reply, _, rfl, earlier, middle, later, rfl, first, second⟩

/-- The replies decide on the way through a dialogue: no history goes on from two paths. -/
theorem Path.unique {dialogue : Dialogue I α} {history other rest rest' : List (Happening I)}
    {value value' : α} (path : dialogue.Path history value) (path' : dialogue.Path other value')
    (same : history ++ rest = other ++ rest') : value = value' ∧ rest = rest' := by
  induction path generalizing other with
  | done value =>
    obtain ⟨rfl, rfl⟩ := path_done_iff.mp path'
    exact ⟨rfl, same⟩
  | log event tail ih =>
    obtain ⟨later, rfl, tail'⟩ := path_log_iff.mp path'
    exact ih tail' (List.cons.inj same).2
  | ask reply tail ih =>
    obtain ⟨reply', later, rfl, tail'⟩ := path_ask_iff.mp path'
    obtain ⟨asked, tails⟩ := List.cons.inj same
    cases asked
    exact ih tail' tails

/-- A run against collaborators follows a path. -/
theorem run_path {σ : Type} (answer : Answerer I σ) (dialogue : Dialogue I α) (state : σ) :
    Path dialogue (dialogue.run answer state).history (dialogue.run answer state).value := by
  induction dialogue generalizing state with
  | done value => exact .done value
  | log event rest ih => exact .log event (ih state)
  | ask request continuation ih => exact .ask _ (ih _ _)

/-- A reply is one that the collaborators give in some state. -/
def IsGivenBy {σ : Type} (answer : Answerer I σ) : Happening I → Prop
  | .logged _ => True
  | .asked request reply => ∃ state, (answer request state).1 = reply

/-- All replies in a run are given by the collaborators. -/
theorem isGivenBy_run {σ : Type} (answer : Answerer I σ) (dialogue : Dialogue I α) (state : σ) :
    ∀ happening ∈ (dialogue.run answer state).history, IsGivenBy answer happening := by
  induction dialogue generalizing state with
  | done value =>
    intro happening member
    cases member
  | log event rest ih =>
    simp only [run, List.forall_mem_cons]
    exact ⟨trivial, ih state⟩
  | ask request continuation ih =>
    simp only [run, List.forall_mem_cons]
    exact ⟨⟨state, rfl⟩, ih _ _⟩

end Dialogue

namespace Action

variable {I : Interface} {α β : Type}

/-- A path through a sequence of two computations either ends with the error of the first, or goes
on with its value. -/
theorem path_bind {first : Action I α} {next : α → Action I β}
    {history : List (Dialogue.Happening I)} {outcome : Except Error β}
    (path : (first >>= next).run.Path history outcome) :
    (∃ error, first.run.Path history (.error error) ∧ outcome = .error error) ∨
      ∃ value earlier later, history = earlier ++ later ∧ first.run.Path earlier (.ok value) ∧
        (next value).run.Path later outcome := by
  rw [run_bind, Dialogue.path_bind_iff] at path
  obtain ⟨earlier, middle, later, rfl, first, second⟩ := path
  cases middle with
  | error error =>
    obtain ⟨rfl, rfl⟩ := Dialogue.path_done_iff.mp second
    exact .inl ⟨error, by simpa using first, rfl⟩
  | ok value => exact .inr ⟨value, earlier, later, rfl, first, second⟩

/-- A sequence of two computations comes to a value only if its first part does. -/
theorem path_bind_ok {first : Action I α} {next : α → Action I β} {value : β}
    {history : List (Dialogue.Happening I)}
    (path : (first >>= next).run.Path history (.ok value)) :
    ∃ middle earlier later, history = earlier ++ later ∧ first.run.Path earlier (.ok middle) ∧
      (next middle).run.Path later (.ok value) := by
  rcases path_bind path with ⟨_, _, contradiction⟩ | found
  · cases contradiction
  · exact found

/-- A value is reached at once. -/
theorem path_pure {value : α} {history : List (Dialogue.Happening I)} {outcome : Except Error α}
    (path : (pure value : Action I α).run.Path history outcome) :
    history = [] ∧ outcome = .ok value :=
  Dialogue.path_done_iff.mp path

/-- An error is reached at once. -/
theorem path_throw {error : Error} {history : List (Dialogue.Happening I)}
    {outcome : Except Error α} (path : (throw error : Action I α).run.Path history outcome) :
    history = [] ∧ outcome = .error error :=
  Dialogue.path_done_iff.mp path

/-- After an event is logged, a sequence goes on with its second part. -/
theorem path_log_bind {event : LogEvent} {next : Unit → Action I α}
    {history : List (Dialogue.Happening I)} {outcome : Except Error α}
    (path : (log event >>= next).run.Path history outcome) :
    ∃ later, history = .logged event :: later ∧ (next ()).run.Path later outcome := by
  rw [run_bind, run_log, Dialogue.log_bind, Dialogue.path_log_iff] at path
  exact path

/-- A sequence that begins with a result goes on with its value, or ends with its error. -/
theorem path_liftM_bind {result : Except Error α} {next : α → Action I β}
    {history : List (Dialogue.Happening I)} {outcome : Except Error β}
    (path : ((liftM result : Action I α) >>= next).run.Path history outcome) :
    (∃ error, result = .error error ∧ history = [] ∧ outcome = .error error) ∨
      ∃ value, result = .ok value ∧ (next value).run.Path history outcome := by
  cases result with
  | error error => exact .inl ⟨error, rfl, Dialogue.path_done_iff.mp path⟩
  | ok value => exact .inr ⟨value, rfl, path⟩

/-- The outcome of a request is its reply. -/
theorem path_ask {request : I.Request} {history : List (Dialogue.Happening I)}
    {outcome : Except Error (I.Reply request)}
    (path : (ask request : Action I _).run.Path history outcome) :
    history = [.asked request outcome] := by
  rw [run_ask, Dialogue.path_ask_iff] at path
  obtain ⟨reply, _, rfl, path⟩ := path
  obtain ⟨rfl, rfl⟩ := Dialogue.path_done_iff.mp path
  rfl

/-- A path through an attempt is one through what is attempted, whose outcome is the value. -/
theorem path_attempt {action : Action I α} {history : List (Dialogue.Happening I)}
    {outcome : Except Error (Except Error α)} (path : action.attempt.run.Path history outcome) :
    ∃ result, outcome = .ok result ∧ action.run.Path history result := by
  rw [run_attempt, Dialogue.path_bind_iff] at path
  obtain ⟨earlier, result, later, rfl, path, rest⟩ := path
  obtain ⟨rfl, rfl⟩ := Dialogue.path_done_iff.mp rest
  exact ⟨result, rfl, by simpa using path⟩

end Action

namespace Procedure

variable {S : Type} {I : Interface} {α β : Type}

/-- A path through a sequence of two procedures either ends with the error of the first, or goes on
with its value from the state that it leaves behind. -/
theorem path_bind {first : Procedure S I α} {next : α → Procedure S I β} {state after : S}
    {history : List (Dialogue.Happening I)} {outcome : Except Error β}
    (path : ((first >>= next).start state).Path history (outcome, after)) :
    (∃ error, (first.start state).Path history (.error error, after) ∧ outcome = .error error) ∨
      ∃ value middle earlier later, history = earlier ++ later ∧
        (first.start state).Path earlier (.ok value, middle) ∧
        ((next value).start middle).Path later (outcome, after) := by
  rw [start_bind, Dialogue.path_bind_iff] at path
  obtain ⟨earlier, ⟨middleOutcome, middle⟩, later, rfl, first, second⟩ := path
  cases middleOutcome with
  | error error =>
    simp only [Dialogue.path_done_iff, Prod.mk.injEq] at second
    obtain ⟨rfl, rfl, rfl⟩ := second
    exact .inl ⟨error, by simpa using first, rfl⟩
  | ok value => exact .inr ⟨value, middle, earlier, later, rfl, first, second⟩

/-- A path through an attempt is one through what is attempted, whose outcome is the value. -/
theorem path_attempt {procedure : Procedure S I α} {state after : S}
    {history : List (Dialogue.Happening I)} {outcome : Except Error (Except Error α)}
    (path : (procedure.attempt.start state).Path history (outcome, after)) :
    ∃ result, outcome = .ok result ∧ (procedure.start state).Path history (result, after) := by
  rw [start_attempt, Dialogue.path_bind_iff] at path
  obtain ⟨earlier, ⟨result, middle⟩, later, rfl, path, rest⟩ := path
  simp only [Dialogue.path_done_iff, Prod.mk.injEq] at rest
  obtain ⟨rfl, rfl, rfl⟩ := rest
  exact ⟨result, rfl, by simpa using path⟩

/-- A procedure that reads the state goes on with it. -/
theorem start_get_bind (next : S → Procedure S I β) (state : S) :
    ((get : Procedure S I S) >>= next).start state = (next state).start state := by
  rw [start_bind, start_get, Dialogue.done_bind]

/-- After the state is replaced, a sequence goes on with its second part. -/
theorem start_set_bind (after : S) (next : PUnit → Procedure S I β) (state : S) :
    ((set after : Procedure S I PUnit) >>= next).start state = (next ⟨⟩).start after := by
  rw [start_bind, start_set, Dialogue.done_bind]

/-- After the state is modified, a sequence goes on with its second part. -/
theorem start_modify_bind (change : S → S) (next : PUnit → Procedure S I β) (state : S) :
    ((modify change : Procedure S I PUnit) >>= next).start state =
      (next ⟨⟩).start (change state) := by
  rw [start_bind, start_modify, Dialogue.done_bind]

/-- A value is reached at once, in the same state. -/
theorem path_pure {value : α} {state after : S} {history : List (Dialogue.Happening I)}
    {outcome : Except Error α}
    (path : ((pure value : Procedure S I α).start state).Path history (outcome, after)) :
    history = [] ∧ outcome = .ok value ∧ after = state := by
  obtain ⟨nothing, same⟩ := Dialogue.path_done_iff.mp path
  exact ⟨nothing, congrArg Prod.fst same, congrArg Prod.snd same⟩

/-- An error is reached at once, in the same state. -/
theorem path_throw {error : Error} {state after : S} {history : List (Dialogue.Happening I)}
    {outcome : Except Error α}
    (path : ((throw error : Procedure S I α).start state).Path history (outcome, after)) :
    history = [] ∧ outcome = .error error ∧ after = state := by
  obtain ⟨nothing, same⟩ := Dialogue.path_done_iff.mp path
  exact ⟨nothing, congrArg Prod.fst same, congrArg Prod.snd same⟩

/-- The outcome of a request is its reply. -/
theorem path_ask {request : I.Request} {state after : S}
    {history : List (Dialogue.Happening I)} {outcome : Except Error (I.Reply request)}
    (path : ((ask request : Procedure S I _).start state).Path history (outcome, after)) :
    history = [.asked request outcome] ∧ after = state := by
  rw [start_ask, Dialogue.path_ask_iff] at path
  obtain ⟨reply, _, rfl, path⟩ := path
  obtain ⟨rfl, same⟩ := Dialogue.path_done_iff.mp path
  cases same
  exact ⟨rfl, rfl⟩

/-- An event that is logged is all that happens. -/
theorem path_log {event : LogEvent} {state after : S} {history : List (Dialogue.Happening I)}
    {outcome : Except Error Unit}
    (path : ((log event : Procedure S I Unit).start state).Path history (outcome, after)) :
    history = [.logged event] ∧ outcome = .ok () ∧ after = state := by
  rw [start_log, Dialogue.path_log_iff] at path
  obtain ⟨_, rfl, path⟩ := path
  obtain ⟨rfl, same⟩ := Dialogue.path_done_iff.mp path
  cases same
  exact ⟨rfl, rfl, rfl⟩

/-- After an event is logged, a sequence goes on with its second part. -/
theorem path_log_bind {event : LogEvent} {next : Unit → Procedure S I α} {state after : S}
    {history : List (Dialogue.Happening I)} {outcome : Except Error α}
    (path : ((log event >>= next).start state).Path history (outcome, after)) :
    ∃ later, history = .logged event :: later ∧
      ((next ()).start state).Path later (outcome, after) := by
  rw [start_bind, start_log, Dialogue.log_bind, Dialogue.path_log_iff] at path
  exact path

/-- A sequence that begins with a result goes on with its value, or ends with its error. -/
theorem path_liftM_bind {result : Except Error α} {next : α → Procedure S I β} {state after : S}
    {history : List (Dialogue.Happening I)} {outcome : Except Error β}
    (path : (((liftM result : Procedure S I α) >>= next).start state).Path history
      (outcome, after)) :
    (∃ error, result = .error error ∧ history = [] ∧ outcome = .error error ∧ after = state) ∨
      ∃ value, result = .ok value ∧ ((next value).start state).Path history (outcome, after) := by
  cases result with
  | error error => exact .inl ⟨error, rfl, path_throw path⟩
  | ok value => exact .inr ⟨value, rfl, path⟩

/-- A path through a function of a procedure's value is one through the procedure. -/
theorem path_map {f : α → β} {procedure : Procedure S I α} {state after : S}
    {history : List (Dialogue.Happening I)} {outcome : Except Error β}
    (path : ((f <$> procedure).start state).Path history (outcome, after)) :
    ∃ result, outcome = f <$> result ∧ (procedure.start state).Path history (result, after) := by
  rw [start_map, Dialogue.path_bind_iff] at path
  obtain ⟨earlier, ⟨result, middle⟩, later, rfl, path, rest⟩ := path
  obtain ⟨rfl, same⟩ := Dialogue.path_done_iff.mp rest
  cases same
  exact ⟨result, rfl, by rwa [List.append_nil]⟩

end Procedure

end SignOn
