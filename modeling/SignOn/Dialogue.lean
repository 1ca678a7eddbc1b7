import SignOn.Error
import SignOn.Log

/-!
# Dialogues with collaborators

The library talks to collaborators (name servers, files, the security mechanism, the connection)
that may answer anything or raise any error. A dialogue is a finite tree: it asks a request and goes
on with whatever comes back, logs an event, or ends with a value. Nothing about the collaborators is
built into it; `Dialogue.run` plays it against any answering function and records what happened,
and `Dialogue.interpret` carries it out in terms of something else.

Main statements: dialogues obey the monad laws, and running a sequence of two dialogues runs the
second from where the first one stopped (`Dialogue.run_bind`). Computations that may fail and
procedures that change a state are dialogues too; `Action.run_bind` and `Procedure.start_bind` say
which.
-/

set_option autoImplicit false

namespace SignOn

/-- The requests that a collaborator understands, with the type of each one's reply. -/
structure Interface where
  Request : Type
  Reply : Request → Type

/-- A computation that may ask requests of `I` and log events on its way to a value. -/
inductive Dialogue (I : Interface) (α : Type) where
  /-- The end. -/
  | done (value : α)
  /-- Logs an event. -/
  | log (event : LogEvent) (rest : Dialogue I α)
  /-- Asks a request and goes on with the reply, or with the error raised instead. -/
  | ask (request : I.Request) (next : Except Error (I.Reply request) → Dialogue I α)

namespace Dialogue

variable {I : Interface} {α β γ : Type}

/-- Goes on with a second dialogue that depends on the value of the first. -/
def bind : Dialogue I α → (α → Dialogue I β) → Dialogue I β
  | .done value, next => next value
  | .log event rest, next => .log event (rest.bind next)
  | .ask request continuation, next => .ask request (fun reply => (continuation reply).bind next)

/-- Dialogues are sequenced by going on where the first one ends. -/
instance : Monad (Dialogue I) where
  pure := .done
  bind := bind

/-- A value alone is a dialogue that has ended. -/
@[simp] theorem pure_eq (value : α) : (pure value : Dialogue I α) = .done value := rfl

/-- The sequence of dialogues is `Dialogue.bind`. -/
@[simp] theorem bind_eq (first : Dialogue I α) (next : α → Dialogue I β) :
    first >>= next = first.bind next := rfl

/-- A function of a dialogue's value is applied at its end. -/
@[simp] theorem map_eq (f : α → β) (dialogue : Dialogue I α) :
    f <$> dialogue = dialogue.bind fun value => .done (f value) := rfl

/-- Behind a dialogue that has ended only the second one is left. -/
@[simp] theorem done_bind (value : α) (next : α → Dialogue I β) :
    (done value : Dialogue I α).bind next = next value := rfl

/-- An event logged by the first of two dialogues comes before the second. -/
@[simp] theorem log_bind (event : LogEvent) (rest : Dialogue I α) (next : α → Dialogue I β) :
    (log event rest).bind next = .log event (rest.bind next) := rfl

/-- A request of the first of two dialogues comes before the second, whatever the reply. -/
@[simp] theorem ask_bind (request : I.Request)
    (continuation : Except Error (I.Reply request) → Dialogue I α) (next : α → Dialogue I β) :
    (ask request continuation).bind next =
      .ask request (fun reply => (continuation reply).bind next) := rfl

/-- To go on with nothing changes nothing. -/
@[simp] theorem bind_done (dialogue : Dialogue I α) : dialogue.bind .done = dialogue := by
  induction dialogue with
  | done value => rfl
  | log event rest ih => simp [ih]
  | ask request continuation ih => simp [ih]

/-- Of three dialogues in sequence it does not matter which two are put together first. -/
theorem bind_assoc (dialogue : Dialogue I α) (second : α → Dialogue I β)
    (third : β → Dialogue I γ) :
    (dialogue.bind second).bind third = dialogue.bind (fun value => (second value).bind third) := by
  induction dialogue with
  | done value => rfl
  | log event rest ih => simp [ih]
  | ask request continuation ih => simp [ih]

/-- Dialogues obey the monad laws. -/
instance : LawfulMonad (Dialogue I) :=
  LawfulMonad.mk' (Dialogue I) bind_done (fun _ _ => rfl) bind_assoc

/-! ## Running a dialogue -/

/-- What can be seen of a dialogue from outside. -/
inductive Happening (I : Interface) where
  | logged (event : LogEvent)
  | asked (request : I.Request) (reply : Except Error (I.Reply request))

/-- Collaborators with a state: how each request is answered, and the state afterwards. -/
def Answerer (I : Interface) (σ : Type) : Type :=
  (request : I.Request) → σ → Except Error (I.Reply request) × σ

/-- The outcome of a run: the value, what happened, in order, and the collaborators' last state. -/
structure Outcome (I : Interface) (σ α : Type) where
  value : α
  history : List (Happening I)
  state : σ

/-- Plays a dialogue against collaborators. -/
def run {σ : Type} (answer : Answerer I σ) : Dialogue I α → σ → Outcome I σ α
  | .done value, state => ⟨value, [], state⟩
  | .log event rest, state =>
    let outcome := rest.run answer state
    { outcome with history := .logged event :: outcome.history }
  | .ask request continuation, state =>
    let (reply, after) := answer request state
    let outcome := (continuation reply).run answer after
    { outcome with history := .asked request reply :: outcome.history }

/-- Nothing happens in a dialogue that has ended. -/
@[simp] theorem run_done {σ : Type} (answer : Answerer I σ) (value : α) (state : σ) :
    (done value : Dialogue I α).run answer state = ⟨value, [], state⟩ := rfl

/-- A sequence of two dialogues runs the second from where the first one stopped. -/
theorem run_bind {σ : Type} (answer : Answerer I σ) (first : Dialogue I α)
    (next : α → Dialogue I β) (state : σ) :
    (first.bind next).run answer state =
      let before := first.run answer state
      let after := (next before.value).run answer before.state
      ⟨after.value, before.history ++ after.history, after.state⟩ := by
  induction first generalizing state with
  | done value => rfl
  | log event rest ih => simp [run, ih]
  | ask request continuation ih => simp [run, ih]

/-- Carries out a dialogue in another monad. -/
def interpret {m : Type → Type} [Monad m] (onLog : LogEvent → m Unit)
    (answer : (request : I.Request) → m (Except Error (I.Reply request))) : Dialogue I α → m α
  | .done value => pure value
  | .log event rest => do
    onLog event
    rest.interpret onLog answer
  | .ask request continuation => do
    let reply ← answer request
    (continuation reply).interpret onLog answer

end Dialogue

/-- A computation over collaborators that may fail. -/
abbrev Action (I : Interface) (α : Type) : Type := ExceptT Error (Dialogue I) α

namespace Action

variable {I : Interface} {α β : Type}

/-- Asks a request; an error raised by the collaborator goes on. -/
def ask (request : I.Request) : Action I (I.Reply request) :=
  ExceptT.mk (.ask request .done)

/-- Logs an event. -/
def log (event : LogEvent) : Action I Unit :=
  ExceptT.mk (.log event (.done (.ok ())))

/-- The outcome of a computation as a value, so that its error can be looked at. -/
def attempt (action : Action I α) : Action I (Except Error α) :=
  ExceptT.mk (action.run.bind (fun outcome => .done (.ok outcome)))

/-! The dialogues behind computations. The type of a reply is that of its request once the request
is known, so it is left out of the index under which the simplifier finds these equations. -/

/-- The dialogue behind a value has ended. -/
@[simp] theorem run_pure (value : α) :
    ExceptT.run (pure value : Action I α) = .done (.ok value) := rfl

/-- The dialogue behind an error has ended with it. -/
@[simp] theorem run_throw (error : Error) :
    ExceptT.run (throw error : Action I α) = .done (.error error) := rfl

/-- A sequence goes on with the value of its first part, or ends with its error. -/
@[simp] theorem run_bind (first : Action I α) (next : α → Action I β) :
    ExceptT.run (first >>= next) = first.run.bind (fun
      | .ok value => (next value).run
      | .error error => .done (.error error)) := by
  show Dialogue.bind _ _ = Dialogue.bind _ _
  congr 1
  funext outcome
  cases outcome <;> rfl

/-- The dialogue behind a request asks it and ends with the reply. -/
@[simp] theorem run_ask (request : I.Request) :
    ExceptT.run (α := no_index (I.Reply request)) (ask request) = .ask request .done := rfl

/-- The dialogue behind an event logs it and ends. -/
@[simp] theorem run_log (event : LogEvent) :
    ExceptT.run (log event : Action I Unit) = .log event (.done (.ok ())) := rfl

/-- The dialogue behind an attempt is that of the computation; its outcome becomes a value. -/
@[simp] theorem run_attempt (action : Action I α) :
    action.attempt.run = action.run.bind (fun outcome => .done (.ok outcome)) := rfl

end Action

/-- A computation over collaborators that also changes a state. What it has done to the state by the
time an error is raised stays done. -/
abbrev Procedure (S : Type) (I : Interface) (α : Type) : Type :=
  ExceptT Error (StateT S (Dialogue I)) α

namespace Procedure

variable {S : Type} {I J : Interface} {α β : Type}

/-- The dialogue of a procedure that starts in a state: its outcome and the state left behind. -/
def start (procedure : Procedure S I α) (state : S) : Dialogue I (Except Error α × S) :=
  procedure.run.run state

/-- A computation that leaves the state alone. -/
def lift (action : Action I α) : Procedure S I α :=
  ExceptT.mk (fun state => action.run.bind (fun outcome => .done (outcome, state)))

/-- Asks a request; an error raised by the collaborator goes on. -/
def ask (request : I.Request) : Procedure S I (I.Reply request) := lift (.ask request)

/-- Logs an event. -/
def log (event : LogEvent) : Procedure S I Unit := lift (.log event)

/-- The outcome of a computation as a value, so that its error can be looked at. -/
def attempt (procedure : Procedure S I α) : Procedure S I (Except Error α) :=
  ExceptT.mk (fun state =>
    (procedure.start state).bind (fun (outcome, after) => .done (.ok outcome, after)))

/-- Carries out a computation, where every request is answered by a procedure. -/
def via (answer : (request : J.Request) → Procedure S I (J.Reply request))
    (action : Action J α) : Procedure S I α :=
  ExceptT.mk
    (Dialogue.interpret (fun event state => .log event (.done ((), state)))
      (fun request => (answer request).run) action.run)

/-! The dialogues behind procedures, from every state. -/

/-- A value leaves the state as it is. -/
@[simp] theorem start_pure (value : α) (state : S) :
    (pure value : Procedure S I α).start state = .done (.ok value, state) := rfl

/-- An error leaves the state as it is. -/
@[simp] theorem start_throw (error : Error) (state : S) :
    (throw error : Procedure S I α).start state = .done (.error error, state) := rfl

/-- A sequence goes on from the state that its first part leaves behind, with the value of that
part, or ends with its error. -/
@[simp] theorem start_bind (first : Procedure S I α) (next : α → Procedure S I β) (state : S) :
    (first >>= next).start state = (first.start state).bind (fun
      | (.ok value, after) => (next value).start after
      | (.error error, after) => .done (.error error, after)) := by
  show Dialogue.bind _ _ = Dialogue.bind _ _
  congr 1
  funext outcome
  rcases outcome with ⟨_ | _, _⟩ <;> rfl

/-- A function of a procedure's value leaves errors and states as they are. -/
@[simp] theorem start_map (f : α → β) (procedure : Procedure S I α) (state : S) :
    (f <$> procedure).start state =
      (procedure.start state).bind (fun outcome => .done (f <$> outcome.1, outcome.2)) := by
  show Dialogue.bind _ _ = Dialogue.bind _ _
  congr 1
  funext outcome
  rcases outcome with ⟨_ | _, _⟩ <;> rfl

/-- The state can be read without a change. -/
@[simp] theorem start_get (state : S) :
    (get : Procedure S I S).start state = .done (.ok state, state) := rfl

/-- A state that is set replaces the one before. -/
@[simp] theorem start_set (after state : S) :
    (set after : Procedure S I PUnit).start state = .done (.ok ⟨⟩, after) := rfl

/-- A state that is modified becomes its image. -/
@[simp] theorem start_modify (change : S → S) (state : S) :
    (modify change : Procedure S I PUnit).start state = .done (.ok ⟨⟩, change state) := rfl

/-- A computation that knows nothing of the state leaves it as it is. -/
@[simp] theorem start_lift (action : Action I α) (state : S) :
    (lift action : Procedure S I α).start state =
      action.run.bind (fun outcome => .done (outcome, state)) := rfl

/-- A request leaves the state as it is, whatever the reply. -/
@[simp] theorem start_ask (request : I.Request) (state : S) :
    Procedure.start (α := no_index (I.Reply request)) (ask request) state =
      .ask request (fun reply => .done (reply, state)) := rfl

/-- An event that is logged leaves the state as it is. -/
@[simp] theorem start_log (event : LogEvent) (state : S) :
    (log event : Procedure S I Unit).start state = .log event (.done (.ok (), state)) := rfl

/-- An attempt ends with the outcome as its value, in the state that the procedure left behind. -/
@[simp] theorem start_attempt (procedure : Procedure S I α) (state : S) :
    procedure.attempt.start state =
      (procedure.start state).bind (fun outcome => .done (.ok outcome.1, outcome.2)) := rfl

end Procedure

end SignOn
