import SignOn.Proofs.Dialogue.Path

/-!
# Carrying out sequences

To carry out a sequence is to carry out its parts, one after the other. So a computation over one
kind of collaborators is carried out step by step in terms of others: its values, events and
requests each become what answers for them, and its attempts become attempts (`Procedure.via_bind`,
`Procedure.via_attempt`). What every answer keeps, the whole computation keeps
(`Procedure.via_invariant`).
-/

set_option autoImplicit false

namespace SignOn

/-- A sequence is carried out part by part. -/
theorem Dialogue.interpret_bind {I : Interface} {α β : Type} {m : Type → Type} [Monad m]
    [LawfulMonad m] (onLog : LogEvent → m Unit)
    (answer : (request : I.Request) → m (Except Error (I.Reply request)))
    (first : Dialogue I α) (next : α → Dialogue I β) :
    (first.bind next).interpret onLog answer =
      first.interpret onLog answer >>= fun value => (next value).interpret onLog answer := by
  induction first with
  | done value => simp only [done_bind, interpret, pure_bind]
  | log event rest ih => simp only [log_bind, interpret, ih, LawfulMonad.bind_assoc]
  | ask request continuation ih => simp only [ask_bind, interpret, ih, LawfulMonad.bind_assoc]

namespace Procedure

variable {S : Type} {I J : Interface} {α β : Type}
  {answer : (request : J.Request) → Procedure S I (J.Reply request)}

/-- A value is carried out as it is. -/
theorem via_pure (value : α) : via answer (pure value) = pure value := rfl

/-- An event is logged as it is. -/
theorem via_log (event : LogEvent) : via answer (.log event) = log event := rfl

/-- A sequence is carried out part by part. -/
theorem via_bind (first : Action J α) (next : α → Action J β) :
    via answer (first >>= next) = via answer first >>= fun value => via answer (next value) := by
  unfold via
  rw [Action.run_bind, Dialogue.interpret_bind]
  show ExceptT.mk (_ >>= _) = ExceptT.mk (_ >>= _)
  congr 2
  funext outcome
  cases outcome <;> rfl

/-- A request is carried out by its answer. -/
theorem via_ask (request : J.Request) : via answer (.ask request) = answer request := by
  show ExceptT.mk ((answer request).run >>= pure) = answer request
  rw [bind_pure]
  rfl

/-- An attempt is carried out as an attempt. -/
theorem via_attempt (action : Action J α) :
    via answer action.attempt = (via answer action).attempt := by
  unfold via
  rw [Action.run_attempt, Dialogue.interpret_bind]
  rfl

/-- What every answer and every logged event keeps, a computation keeps that is carried out; it may
speak of all that happened so far, and rely on a property of whatever happens. -/
theorem via_invariant {holds : S → List (Dialogue.Happening I) → Prop}
    {given : Dialogue.Happening I → Prop}
    (logs : ∀ state past event, holds state past → holds state (past ++ [.logged event]))
    (answers : ∀ request state past history outcome after,
      ((answer request).start state).Path history (outcome, after) →
        (∀ happening ∈ history, given happening) → holds state past → holds after (past ++ history))
    {action : Action J α} {state after : S} {past history : List (Dialogue.Happening I)}
    {outcome : Except Error α}
    (path : ((via answer action).start state).Path history (outcome, after))
    (all : ∀ happening ∈ history, given happening) (start : holds state past) :
    holds after (past ++ history) := by
  have carried : ∀ (dialogue : Dialogue J (Except Error α)) state past history ending,
      (dialogue.interpret (m := StateT S (Dialogue I))
          (fun event state => .log event (.done ((), state)))
          (fun request => (answer request).run) state).Path history ending →
        (∀ happening ∈ history, given happening) → holds state past →
        holds ending.2 (past ++ history) := by
    -- event by event and reply by reply, from the state that the last answer left behind
    intro dialogue
    induction dialogue with
    | done value =>
      intro state past history ending path _ start
      obtain ⟨rfl, rfl⟩ := Dialogue.path_done_iff.mp path
      rwa [List.append_nil]
    | log event rest ih =>
      intro state past history ending path all start
      obtain ⟨later, rfl, tail⟩ := Dialogue.path_log_iff.mp path
      have found := ih state _ later ending tail (List.forall_mem_cons.mp all).2
        (logs state past event start)
      rwa [List.append_assoc] at found
    | ask request next ih =>
      intro state past history ending path all start
      obtain ⟨earlier, ⟨reply, middle⟩, later, rfl, first, second⟩ :=
        Dialogue.path_bind_iff.mp path
      rw [List.forall_mem_append] at all
      have found := ih reply middle _ later ending second all.2
        (answers request state past earlier reply middle first all.1 start)
      rwa [List.append_assoc] at found
  exact carried action.run state past history (outcome, after) path all start

/-- A sequence that begins with a computation goes on from the same state. -/
theorem start_lift_bind (action : Action I α) (next : α → Procedure S I β) (state : S) :
    (lift action >>= next).start state = action.run.bind (fun
      | .ok value => (next value).start state
      | .error error => .done (.error error, state)) := by
  rw [start_bind, start_lift, Dialogue.bind_assoc]
  congr 1
  funext outcome
  cases outcome <;> rfl

/-- An attempt at a computation that knows nothing of the state knows nothing of it either. -/
theorem attempt_lift (action : Action I α) :
    (lift action : Procedure S I α).attempt = lift action.attempt := by
  show ExceptT.mk _ = ExceptT.mk _
  congr 1
  funext state
  rw [start_lift, Action.run_attempt, Dialogue.bind_assoc, Dialogue.bind_assoc]
  rfl

end Procedure

end SignOn
