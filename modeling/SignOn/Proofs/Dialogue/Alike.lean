import SignOn.Proofs.Dialogue.Path

/-!
# Dialogues that look alike

A view hides a part of what is asked and replied. Two dialogues look alike under a view if they log
the same events, ask for what is seen as the same, and still look alike after replies that are seen
as the same (`Dialogue.Alike`). Main statement: on paths through such dialogues the same is seen, as
long as calls that are seen as the same are answered alike (`Dialogue.Alike.seen_eq`). What holds of
dialogues is carried over to procedures, where the states have to be equal (`Procedure.Alike`).
-/

set_option autoImplicit false

namespace SignOn

/-- How much is seen of the requests of an interface and of the replies to them. -/
structure View (I : Interface) where
  Request : Type
  Reply : Type
  request : I.Request → Request
  reply : (request : I.Request) → Except Error (I.Reply request) → Reply

namespace View

variable {I : Interface}

/-- What is seen of a happening: the event that is logged, or a call with the reply to it. -/
def seen (view : View I) : Dialogue.Happening I → LogEvent ⊕ (view.Request × view.Reply)
  | .logged event => .inl event
  | .asked request reply => .inr (view.request request, view.reply request reply)

/-- The calls that are seen in a history, each with its reply. -/
def calls (view : View I) (history : List (Dialogue.Happening I)) :
    List (view.Request × view.Reply) :=
  (history.map view.seen).filterMap Sum.getRight?

/-- The calls that are seen in two stretches are those in the one and then those in the other. -/
theorem calls_append (view : View I) (earlier later : List (Dialogue.Happening I)) :
    view.calls (earlier ++ later) = view.calls earlier ++ view.calls later := by
  simp [calls]

end View

/-- Wherever two lists have the same call at one position, the replies to it are the same. -/
def AnsweredAlike {Q A : Type} (calls others : List (Q × A)) : Prop :=
  ∀ (position : Nat) (request : Q) (reply other : A), calls[position]? = some (request, reply) →
    others[position]? = some (request, other) → reply = other

section Answers

variable {Q A : Type}

/-- Calls are answered the way they are answered. -/
theorem answeredAlike_self (calls : List (Q × A)) : AnsweredAlike calls calls := by
  intro position request reply other found again
  rw [found] at again
  cases again
  rfl

/-- If the first calls are the same, so are the replies to them. -/
theorem AnsweredAlike.head {request : Q} {reply other : A} {calls others : List (Q × A)}
    (answered : AnsweredAlike ((request, reply) :: calls) ((request, other) :: others)) :
    reply = other :=
  answered 0 request reply other rfl rfl

/-- Behind the first calls, too, the same calls have the same replies. -/
theorem AnsweredAlike.tail {first second : Q × A} {calls others : List (Q × A)}
    (answered : AnsweredAlike (first :: calls) (second :: others)) :
    AnsweredAlike calls others := by
  intro position request reply other found again
  exact answered (position + 1) request reply other found again

/-- What comes later does not matter for the calls that came first. -/
theorem AnsweredAlike.first {calls others later later' : List (Q × A)}
    (answered : AnsweredAlike (calls ++ later) (others ++ later')) :
    AnsweredAlike calls others := by
  intro position request reply other found again
  apply answered position request reply other
  · rw [List.getElem?_append_left (List.getElem?_eq_some_iff.mp found).1, found]
  · rw [List.getElem?_append_left (List.getElem?_eq_some_iff.mp again).1, again]

/-- Behind a stretch of equal calls, too, the same calls have the same replies. -/
theorem AnsweredAlike.rest {calls later later' : List (Q × A)}
    (answered : AnsweredAlike (calls ++ later) (calls ++ later')) :
    AnsweredAlike later later' := by
  induction calls with
  | nil => exact answered
  | cons call calls ih => exact ih answered.tail

end Answers

namespace Dialogue

variable {I : Interface} {α β γ δ : Type}

/-- Two dialogues look alike under a view, and come to values that belong together. -/
inductive Alike (view : View I) (same : α → β → Prop) : Dialogue I α → Dialogue I β → Prop where
  | done {value : α} {other : β} (values : same value other) :
      Alike view same (.done value) (.done other)
  | log {rest : Dialogue I α} {rest' : Dialogue I β} (event : LogEvent)
      (rests : Alike view same rest rest') : Alike view same (.log event rest) (.log event rest')
  | ask {request request' : I.Request} {next : Except Error (I.Reply request) → Dialogue I α}
      {next' : Except Error (I.Reply request') → Dialogue I β}
      (requests : view.request request = view.request request')
      (nexts : ∀ reply reply', view.reply request reply = view.reply request' reply' →
        Alike view same (next reply) (next' reply')) :
      Alike view same (.ask request next) (.ask request' next')

/-- Sequences look alike if their parts do. -/
theorem Alike.bind {view : View I} {same : α → β → Prop} {after : γ → δ → Prop}
    {first : Dialogue I α} {first' : Dialogue I β} {next : α → Dialogue I γ}
    {next' : β → Dialogue I δ} (firsts : Alike view same first first')
    (nexts : ∀ value other, same value other → Alike view after (next value) (next' other)) :
    Alike view after (first.bind next) (first'.bind next') := by
  induction firsts with
  | done values => exact nexts _ _ values
  | log event rests ih => exact .log event ih
  | ask requests _ ih => exact .ask requests ih

/-- On paths through dialogues that look alike the same is seen, as long as calls that are seen as
the same are answered alike. -/
theorem Alike.seen_eq {view : View I} {same : α → β → Prop} {dialogue : Dialogue I α}
    {dialogue' : Dialogue I β} (alike : Alike view same dialogue dialogue')
    {history history' : List (Happening I)} {value : α} {value' : β}
    (path : dialogue.Path history value) (path' : dialogue'.Path history' value')
    (answered : AnsweredAlike (view.calls history) (view.calls history')) :
    history.map view.seen = history'.map view.seen ∧ same value value' := by
  induction alike generalizing history history' with
  | done values =>
    obtain ⟨rfl, rfl⟩ := path_done_iff.mp path
    obtain ⟨rfl, rfl⟩ := path_done_iff.mp path'
    exact ⟨rfl, values⟩
  | log event rests ih =>
    obtain ⟨later, rfl, tail⟩ := path_log_iff.mp path
    obtain ⟨later', rfl, tail'⟩ := path_log_iff.mp path'
    obtain ⟨histories, values⟩ := ih tail tail' answered
    refine ⟨?_, values⟩
    rw [List.map_cons, List.map_cons, histories]
  | @ask request request' next next' requests nexts ih =>
    obtain ⟨reply, later, rfl, tail⟩ := path_ask_iff.mp path
    obtain ⟨reply', later', rfl, tail'⟩ := path_ask_iff.mp path'
    have call : view.seen (.asked request reply) =
        .inr (view.request request', view.reply request reply) := by
      rw [← requests]
      rfl
    -- both calls are seen as the same one, so they were answered alike
    have opened : AnsweredAlike
        ((view.request request', view.reply request reply) :: view.calls later)
        ((view.request request', view.reply request' reply') :: view.calls later') := by
      rwa [View.calls, List.map_cons, call] at answered
    obtain ⟨histories, values⟩ := ih reply reply' opened.head tail tail' opened.tail
    refine ⟨?_, values⟩
    rw [List.map_cons, List.map_cons, histories, call, opened.head]
    rfl

/-- Collaborators that answer alike: to requests that are seen as the same they give replies that
are seen as the same, and go on from the same state. -/
def AnswerAlike {σ : Type} (view : View I) (answer answer' : Answerer I σ) : Prop :=
  ∀ request request' state, view.request request = view.request request' →
    view.reply request (answer request state).1 = view.reply request' (answer' request' state).1 ∧
      (answer request state).2 = (answer' request' state).2

/-- Dialogues that look alike go alike with collaborators that answer alike. -/
theorem Alike.run_eq {σ : Type} {view : View I} {answer answer' : Answerer I σ}
    (answers : AnswerAlike view answer answer') {same : α → β → Prop} {dialogue : Dialogue I α}
    {dialogue' : Dialogue I β} (alike : Alike view same dialogue dialogue') (state : σ) :
    (dialogue.run answer state).history.map view.seen =
        (dialogue'.run answer' state).history.map view.seen ∧
      (dialogue.run answer state).state = (dialogue'.run answer' state).state ∧
      same (dialogue.run answer state).value (dialogue'.run answer' state).value := by
  induction alike generalizing state with
  | done values => exact ⟨rfl, rfl, values⟩
  | log event rests ih =>
    obtain ⟨histories, states, values⟩ := ih state
    refine ⟨?_, states, values⟩
    simp only [run, List.map_cons, histories]
  | @ask request request' next next' requests nexts ih =>
    obtain ⟨replies, states⟩ := answers request request' state requests
    obtain ⟨histories, lasts, values⟩ := ih _ _ replies (answer request state).2
    simp only [run]
    rw [← states]
    refine ⟨?_, lasts, values⟩
    rw [List.map_cons, List.map_cons, histories]
    simp only [View.seen, requests, replies]

end Dialogue

/-- Two outcomes are the same error, or values that belong together. -/
inductive SameOutcome {α β : Type} (same : α → β → Prop) :
    Except Error α → Except Error β → Prop where
  | ok {value : α} {other : β} (values : same value other) :
      SameOutcome same (.ok value) (.ok other)
  | error (error : Error) : SameOutcome same (.error error) (.error error)

namespace Procedure

variable {S : Type} {I : Interface} {α β γ δ : Type} {view : View I}

/-- Two procedures look alike from every state, and leave the same state behind. -/
def Alike (view : View I) (same : α → β → Prop) (procedure : Procedure S I α)
    (other : Procedure S I β) : Prop :=
  ∀ state, Dialogue.Alike view (fun ending ending' =>
    SameOutcome same ending.1 ending'.1 ∧ ending.2 = ending'.2)
    (procedure.start state) (other.start state)

/-- Values that belong together look alike. -/
theorem alike_pure {same : α → β → Prop} {value : α} {other : β} (values : same value other) :
    Alike view same (pure value : Procedure S I α) (pure other) := by
  intro state
  exact .done ⟨.ok values, rfl⟩

/-- The same error looks the same. -/
theorem alike_throw (same : α → β → Prop) (error : Error) :
    Alike view same (throw error : Procedure S I α) (throw error) := by
  intro state
  exact .done ⟨.error error, rfl⟩

/-- Sequences look alike if their parts do. -/
theorem Alike.bind {same : α → β → Prop} {after : γ → δ → Prop} {first : Procedure S I α}
    {first' : Procedure S I β} {next : α → Procedure S I γ} {next' : β → Procedure S I δ}
    (firsts : Alike view same first first')
    (nexts : ∀ value other, same value other → Alike view after (next value) (next' other)) :
    Alike view after (first >>= next) (first' >>= next') := by
  intro state
  rw [start_bind, start_bind]
  refine (firsts state).bind ?_
  rintro ⟨outcome, left⟩ ⟨outcome', _⟩ ⟨outcomes, rfl⟩
  cases outcomes with
  | ok values => exact nexts _ _ values left
  | error error => exact .done ⟨.error error, rfl⟩

/-- Procedures that begin with the same one go on from the same values. -/
theorem Alike.bind_self {after : γ → δ → Prop} {first : Procedure S I α}
    {next : α → Procedure S I γ} {next' : α → Procedure S I δ}
    (first_alike : Alike view Eq first first)
    (nexts : ∀ value, Alike view after (next value) (next' value)) :
    Alike view after (first >>= next) (first >>= next') := by
  refine first_alike.bind ?_
  rintro value _ rfl
  exact nexts value

/-- Functions of the values look alike if the images belong together. -/
theorem Alike.map {same : α → β → Prop} {after : γ → δ → Prop} {f : α → γ} {g : β → δ}
    {procedure : Procedure S I α} {other : Procedure S I β}
    (alike : Alike view same procedure other)
    (images : ∀ value value', same value value' → after (f value) (g value')) :
    Alike view after (f <$> procedure) (g <$> other) := by
  intro state
  rw [start_map, start_map]
  refine (alike state).bind ?_
  rintro ⟨outcome, left⟩ ⟨outcome', _⟩ ⟨outcomes, rfl⟩
  cases outcomes with
  | ok values => exact .done ⟨.ok (images _ _ values), rfl⟩
  | error error => exact .done ⟨.error error, rfl⟩

/-- To read the state looks the same. -/
theorem alike_get : Alike view Eq (get : Procedure S I S) get := by
  intro state
  exact .done ⟨.ok rfl, rfl⟩

/-- To replace the state looks the same. -/
theorem alike_set (after : S) : Alike view Eq (set after : Procedure S I PUnit) (set after) := by
  intro state
  exact .done ⟨.ok rfl, rfl⟩

/-- To modify the state looks the same. -/
theorem alike_modify (change : S → S) :
    Alike view Eq (modify change : Procedure S I PUnit) (modify change) := by
  intro state
  exact .done ⟨.ok rfl, rfl⟩

/-- To log the same event looks the same. -/
theorem alike_log (event : LogEvent) :
    Alike view Eq (log event : Procedure S I Unit) (log event) := by
  intro state
  exact .log event (.done ⟨.ok rfl, rfl⟩)

/-- To look at the outcomes looks alike if the procedures do. -/
theorem Alike.attempt {same : α → β → Prop} {procedure : Procedure S I α}
    {other : Procedure S I β} (alike : Alike view same procedure other) :
    Alike view (SameOutcome same) procedure.attempt other.attempt := by
  intro state
  rw [start_attempt, start_attempt]
  refine (alike state).bind ?_
  rintro ⟨outcome, left⟩ ⟨outcome', _⟩ ⟨outcomes, rfl⟩
  exact .done ⟨.ok outcomes, rfl⟩

/-- Requests look alike if they are seen as the same and if replies that are seen as the same belong
together. -/
theorem alike_ask {request request' : I.Request}
    {same : I.Reply request → I.Reply request' → Prop}
    (requests : view.request request = view.request request')
    (replies : ∀ reply reply', view.reply request reply = view.reply request' reply' →
      SameOutcome same reply reply') :
    Alike view same (ask request : Procedure S I _) (ask request') := by
  intro state
  rw [start_ask, start_ask]
  refine .ask requests ?_
  intro reply reply' seen
  exact .done ⟨replies reply reply' seen, rfl⟩

end Procedure

end SignOn
