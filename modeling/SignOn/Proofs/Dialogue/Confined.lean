import SignOn.Proofs.Dialogue.Path

/-!
# What may happen in a computation

A computation is confined to what a predicate allows if nothing else can happen in it
(`Action.Confined`, and for procedures `Procedure.Confined`). A computation over some collaborators
can be carried out by computations that answer for them (`Action.through`), and stays as confined as
these are (`Action.Confined.through`). Procedures that answer without a change of the state carry it
out the same way (`Procedure.start_via`).
-/

set_option autoImplicit false

namespace SignOn

open Dialogue (Happening)

namespace Dialogue

variable {I : Interface} {α β : Type} {holds : Happening I → Prop}

/-- Whatever may happen in a dialogue satisfies a predicate. -/
def Confined (holds : Happening I → Prop) : Dialogue I α → Prop
  | .done _ => True
  | .log event rest => holds (.logged event) ∧ rest.Confined holds
  | .ask request next => ∀ reply, holds (.asked request reply) ∧ (next reply).Confined holds

/-- A sequence is confined if its parts are. -/
theorem Confined.bind {first : Dialogue I α} {next : α → Dialogue I β}
    (confined : first.Confined holds) (nexts : ∀ value, (next value).Confined holds) :
    (first.bind next).Confined holds := by
  induction first with
  | done value => exact nexts value
  | log event rest ih => exact ⟨confined.1, ih confined.2⟩
  | ask request continuation ih =>
    exact fun reply => ⟨(confined reply).1, ih reply (confined reply).2⟩

/-- On a path through a confined dialogue nothing else happens. -/
theorem Confined.forall_mem {dialogue : Dialogue I α} (confined : dialogue.Confined holds)
    {history : List (Happening I)} {value : α} (path : dialogue.Path history value) :
    ∀ happening ∈ history, holds happening := by
  induction path with
  | done value => simp
  | log event tail ih => exact List.forall_mem_cons.mpr ⟨confined.1, ih confined.2⟩
  | ask reply tail ih =>
    exact List.forall_mem_cons.mpr ⟨(confined reply).1, ih (confined reply).2⟩

/-- Carrying out a dialogue is as confined as the answers and the events. -/
theorem Confined.interpret {J : Interface} {held : Happening J → Prop} {dialogue : Dialogue J α}
    (confined : dialogue.Confined held) {onLog : LogEvent → Dialogue I Unit}
    {answer : (request : J.Request) → Dialogue I (Except Error (J.Reply request))}
    (logs : ∀ event, held (.logged event) → (onLog event).Confined holds)
    (answers : ∀ request, (answer request).Confined holds) :
    (dialogue.interpret onLog answer).Confined holds := by
  induction dialogue with
  | done value => trivial
  | log event rest ih => exact (logs event confined.1).bind fun _ => ih confined.2
  | ask request next ih => exact (answers request).bind fun reply => ih reply (confined reply).2

end Dialogue

namespace Action

variable {I J : Interface} {α β : Type} {holds : Happening I → Prop}

/-- Whatever may happen in a computation satisfies a predicate. -/
def Confined (holds : Happening I → Prop) (action : Action I α) : Prop := action.run.Confined holds

/-- Nothing happens in a value. -/
theorem confined_pure (value : α) : Confined holds (pure value : Action I α) := trivial

/-- Nothing happens in an error. -/
theorem confined_throw (error : Error) : Confined holds (throw error : Action I α) := trivial

/-- To log an event is confined if the event is allowed. -/
theorem confined_log {event : LogEvent} (allowed : holds (.logged event)) :
    Confined holds (log event : Action I Unit) :=
  ⟨allowed, trivial⟩

/-- To ask a request is confined if it is allowed with every reply. -/
theorem confined_ask {request : I.Request} (allowed : ∀ reply, holds (.asked request reply)) :
    Confined holds (ask request : Action I _) :=
  fun reply => ⟨allowed reply, trivial⟩

/-- A sequence is confined if its parts are. -/
theorem Confined.bind {first : Action I α} {next : α → Action I β}
    (confined : Confined holds first) (nexts : ∀ value, Confined holds (next value)) :
    Confined holds (first >>= next) := by
  unfold Confined
  rw [run_bind]
  refine Dialogue.Confined.bind confined fun outcome => ?_
  cases outcome with
  | error error => trivial
  | ok value => exact nexts value

/-- To log an event and end is confined if the event is allowed. -/
theorem confined_log_pure {event : LogEvent} (allowed : holds (.logged event)) (value : α) :
    Confined holds (do log event; return value : Action I α) :=
  (confined_log allowed).bind fun _ => confined_pure value

/-- A function of its value leaves a computation as confined as it is. -/
theorem Confined.map {f : α → β} {action : Action I α} (confined : Confined holds action) :
    Confined holds (f <$> action) := by
  rw [map_eq_pure_bind]
  exact confined.bind fun value => confined_pure (f value)

/-- To look at its outcome leaves a computation as confined as it is. -/
theorem Confined.attempt {action : Action I α} (confined : Confined holds action) :
    Confined holds action.attempt := by
  unfold Confined
  rw [run_attempt]
  exact Dialogue.Confined.bind confined fun _ => trivial

/-- On a path through a confined computation nothing else happens. -/
theorem Confined.forall_mem {action : Action I α} (confined : Confined holds action)
    {history : List (Happening I)} {outcome : Except Error α}
    (path : action.run.Path history outcome) : ∀ happening ∈ history, holds happening :=
  Dialogue.Confined.forall_mem confined path

/-- Carries out a computation, where every request is answered by a computation. -/
def through (answer : (request : J.Request) → Action I (J.Reply request)) (action : Action J α) :
    Action I α :=
  ExceptT.mk (action.run.interpret (fun event => .log event (.done ()))
    (fun request => (answer request).run))

/-- Carrying out a computation is as confined as the answers and the events. -/
theorem Confined.through {held : Happening J → Prop} {action : Action J α}
    {answer : (request : J.Request) → Action I (J.Reply request)}
    (confined : Confined held action)
    (logs : ∀ event, held (.logged event) → holds (.logged event))
    (answers : ∀ request, Confined holds (answer request)) :
    Confined holds (through answer action) :=
  Dialogue.Confined.interpret confined (fun event allowed => ⟨logs event allowed, trivial⟩) answers

end Action

namespace Procedure

variable {S : Type} {I J : Interface} {α β : Type}

/-- A function of the value can be applied to the computation that a procedure carries out. -/
theorem start_map_of_start {f : α → β} {procedure : Procedure S I α} {action : Action I α}
    {state : S}
    (same : procedure.start state = action.run.bind fun outcome => .done (outcome, state)) :
    (f <$> procedure).start state =
      (f <$> action).run.bind fun outcome => .done (outcome, state) := by
  rw [start_map, same, map_eq_pure_bind, Action.run_bind, Dialogue.bind_assoc, Dialogue.bind_assoc]
  congr 1
  funext outcome
  cases outcome <;> rfl

/-- A path through a computation that knows nothing of the state leaves the state as it is. -/
theorem path_lift {action : Action I α} {state after : S} {history : List (Happening I)}
    {outcome : Except Error α}
    (path : ((lift action : Procedure S I α).start state).Path history (outcome, after)) :
    action.run.Path history outcome ∧ after = state := by
  rw [start_lift, Dialogue.path_bind_iff] at path
  obtain ⟨earlier, middle, later, rfl, path, rest⟩ := path
  obtain ⟨rfl, same⟩ := Dialogue.path_done_iff.mp rest
  cases same
  exact ⟨by rwa [List.append_nil], rfl⟩

/-- Where no answer changes the state, a computation is carried out as one over the collaborators
that answer. -/
theorem start_via {answer : (request : J.Request) → Procedure S I (J.Reply request)}
    {fixed : (request : J.Request) → Action I (J.Reply request)} {state : S}
    (same : ∀ request, (answer request).start state =
      (fixed request).run.bind fun reply => .done (reply, state)) (action : Action J α) :
    (via answer action).start state =
      (Action.through fixed action).run.bind fun outcome => .done (outcome, state) := by
  have carried : ∀ dialogue : Dialogue J (Except Error α),
      dialogue.interpret (m := StateT S (Dialogue I))
          (fun event state => .log event (.done ((), state)))
          (fun request => (answer request).run) state =
        (dialogue.interpret (fun event => .log event (.done ()))
          (fun request => (fixed request).run)).bind fun outcome => .done (outcome, state) := by
    -- reply by reply, as the state is the same after each answer
    intro dialogue
    induction dialogue with
    | done value => rfl
    | log event rest ih => exact congrArg (Dialogue.log event) ih
    | ask request next ih =>
      show ((answer request).start state).bind _ = Dialogue.bind (Dialogue.bind _ _) _
      rw [same, Dialogue.bind_assoc, Dialogue.bind_assoc]
      congr 1
      funext reply
      exact ih reply
  exact carried action.run

variable {holds : Happening I → Prop}

/-- Whatever may happen in a procedure satisfies a predicate, from every state. -/
def Confined (holds : Happening I → Prop) (procedure : Procedure S I α) : Prop :=
  ∀ state, (procedure.start state).Confined holds

/-- Nothing happens in a value. -/
theorem confined_pure (value : α) : Confined holds (pure value : Procedure S I α) :=
  fun _ => trivial

/-- Nothing happens in an error. -/
theorem confined_throw (error : Error) : Confined holds (throw error : Procedure S I α) :=
  fun _ => trivial

/-- Nothing happens when the state is read. -/
theorem confined_get : Confined holds (get : Procedure S I S) := fun _ => trivial

/-- Nothing happens when the state is replaced. -/
theorem confined_set (state : S) : Confined holds (set state : Procedure S I PUnit) :=
  fun _ => trivial

/-- To log an event is confined if the event is allowed. -/
theorem confined_log {event : LogEvent} (allowed : holds (.logged event)) :
    Confined holds (log event : Procedure S I Unit) :=
  fun _ => ⟨allowed, trivial⟩

/-- To ask a request is confined if it is allowed with every reply. -/
theorem confined_ask {request : I.Request} (allowed : ∀ reply, holds (.asked request reply)) :
    Confined holds (ask request : Procedure S I _) :=
  fun _ reply => ⟨allowed reply, trivial⟩

/-- A sequence is confined if its parts are. -/
theorem Confined.bind {first : Procedure S I α} {next : α → Procedure S I β}
    (confined : Confined holds first) (nexts : ∀ value, Confined holds (next value)) :
    Confined holds (first >>= next) := by
  intro state
  rw [start_bind]
  refine Dialogue.Confined.bind (confined state) ?_
  rintro ⟨outcome, after⟩
  cases outcome with
  | error error => trivial
  | ok value => exact nexts value after

/-- To look at its outcome leaves a procedure as confined as it is. -/
theorem Confined.attempt {procedure : Procedure S I α} (confined : Confined holds procedure) :
    Confined holds procedure.attempt := by
  intro state
  rw [start_attempt]
  exact Dialogue.Confined.bind (confined state) fun _ => trivial

/-- On a path through a confined procedure nothing else happens. -/
theorem Confined.forall_mem {procedure : Procedure S I α} (confined : Confined holds procedure)
    {history : List (Happening I)} {state after : S} {outcome : Except Error α}
    (path : (procedure.start state).Path history (outcome, after)) :
    ∀ happening ∈ history, holds happening :=
  Dialogue.Confined.forall_mem (confined state) path

end Procedure

end SignOn
