import SignOn.Proofs.Handshake.Acceptance

/-!
# The words of a handshake

The classes of the events that a handshake accepted form a word: nothing, a failure, or the creation
of a context, exchanges of tokens and at most one end. Each word belongs to one state
(`IsWord.unique`), an accepted event extends the word (`IsWord.concat`), and a word that has come to
its end is not extended any more; all of these words occur (`isWord_iff_exists_speaks`). Main
statement: whatever events and guards a new handshake machine is given, its history is a word of its
state, and the guard on context creation never objects (`history_is_word`).
-/

set_option autoImplicit false

namespace SignOn.Handshake

open Machine (Command Running)

/-! ## Words -/

/-- The words of a handshake, each with the state that it leads to. -/
inductive IsWord : List Kind → HandshakeState → Prop where
  | empty : IsWord [] .notStarted
  | failed : IsWord [.negotiationFailed] .failed
  | running (exchanges : Nat) :
      IsWord (.contextCreated :: List.replicate exchanges .tokenExchanged) .inProgress
  | established (exchanges : Nat) :
      IsWord (.contextCreated :: List.replicate exchanges .tokenExchanged ++ [.contextEstablished])
        .established
  | broken (exchanges : Nat) :
      IsWord (.contextCreated :: List.replicate exchanges .tokenExchanged ++ [.negotiationFailed])
        .failed

/-- The state that the last event of a word leads to. -/
def stateAt (word : List Kind) : HandshakeState :=
  match word.getLast? with
  | none => .notStarted
  | some .contextEstablished => .established
  | some .negotiationFailed => .failed
  | some _ => .inProgress

/-- The state of a word can be told from its last event. -/
theorem IsWord.stateAt_eq {word : List Kind} {state : HandshakeState} (spoken : IsWord word state) :
    stateAt word = state := by
  cases spoken with
  | empty => rfl
  | failed => rfl
  | running exchanges =>
    cases exchanges with
    | zero => rfl
    | succ n =>
      unfold stateAt
      rw [List.replicate_succ', ← List.cons_append, List.getLast?_concat]
  | established exchanges | broken exchanges =>
    unfold stateAt
    rw [List.getLast?_concat]

/-- A word belongs to one state only. -/
theorem IsWord.unique {word : List Kind} {state other : HandshakeState}
    (spoken : IsWord word state) (again : IsWord word other) : other = state := by
  rw [← spoken.stateAt_eq, ← again.stateAt_eq]

/-- An event that the table provides for extends a word. -/
theorem IsWord.concat {word : List Kind} {state target : HandshakeState} {kind : Kind}
    (spoken : IsWord word state) (provided : next state kind = some target) :
    IsWord (word ++ [kind]) target := by
  cases spoken with
  | empty =>
    cases kind with
    | contextCreated =>
      cases provided
      exact .running 0
    | negotiationFailed =>
      cases provided
      exact .failed
    | tokenExchanged | contextEstablished | other name => cases provided
  | running exchanges =>
    cases kind with
    | tokenExchanged =>
      cases provided
      have longer := IsWord.running (exchanges + 1)
      rwa [List.replicate_succ', ← List.cons_append] at longer
    | contextEstablished =>
      cases provided
      exact .established exchanges
    | negotiationFailed =>
      cases provided
      exact .broken exchanges
    | contextCreated | other name => cases provided
  | failed | established exchanges | broken exchanges => cases provided

/-- A word holds no event of a foreign class. -/
theorem IsWord.ne_other {word : List Kind} {state : HandshakeState} (spoken : IsWord word state)
    (name : String) : Kind.other name ∉ word := by
  cases spoken <;> simp [List.mem_replicate]

/-- A handshake has not started just if its word is empty. -/
theorem IsWord.eq_nil {word : List Kind} (spoken : IsWord word .notStarted) : word = [] := by
  cases spoken
  rfl

/-! ## Machines -/

/-- The classes of the accepted events, oldest first. -/
def wordOf (tracker : Tracker) : List Kind := tracker.history.map (·.kind)

/-- A command keeps the history a word of the state. -/
theorem isWord_obey {tracker : Tracker} (spoken : IsWord (wordOf tracker) tracker.state)
    (command : Command HandshakeState Kind Event) :
    IsWord (wordOf (tracker.obey rules command)) (tracker.obey rules command).state := by
  rcases tracker.obey_cases rules command with ⟨event, target, rfl, judged, obeyed⟩ | obeyed
  · rw [obeyed]
    have provided := (Running.judge_eq_accepted_iff.mp judged).1
    have extended : wordOf (tracker.moved rules target event) = wordOf tracker ++ [event.kind] := by
      unfold wordOf Running.moved
      rw [List.map_append]
      rfl
    rw [extended]
    exact spoken.concat provided
  · rw [obeyed]
    exact spoken

/-- Whatever a new machine is told, the classes of the events it accepted are a word of its
state. -/
theorem isWord_after (commands : List (Command HandshakeState Kind Event)) :
    IsWord (wordOf (fresh.after rules commands)) (fresh.after rules commands).state := by
  refine Running.after_invariant (fun tracker => IsWord (wordOf tracker) tracker.state) ?_ ?_
    commands
  · exact fun _ command spoken => isWord_obey spoken command
  · exact .empty

/-- A context is created at the start of a word only, so the guard on it has nothing to object
to. -/
theorem createdOnce_allows_of_isWord {tracker : Tracker}
    (spoken : IsWord (wordOf tracker) tracker.state) {event : Event} {target : HandshakeState}
    (provided : next tracker.state event.kind = some target) :
    createdOnce.allows tracker.state tracker.history target event = true := by
  refine createdOnce_allows provided ?_
  intro creation
  rw [creation] at provided
  rw [eq_notStarted_of_next provided] at spoken
  have unrecorded : tracker.history = [] := List.map_eq_nil_iff.mp spoken.eq_nil
  rw [unrecorded]
  rfl

/-- A word of a state is spoken by a new machine that is given these events and no guards. -/
def Speaks (events : List Event) (word : List Kind) (state : HandshakeState) : Prop :=
  let tracker := fresh.after rules (events.map .give)
  wordOf tracker = word ∧ tracker.state = state

/-- A word that is spoken can be spoken on by one more event, if the rules provide for it. -/
theorem Speaks.concat {events : List Event} {word : List Kind} {state target : HandshakeState}
    (speaks : Speaks events word state) (event : Event)
    (provided : next state event.kind = some target) :
    Speaks (events ++ [event]) (word ++ [event.kind]) target := by
  obtain ⟨rfl, rfl⟩ := speaks
  have last : fresh.after rules ((events ++ [event]).map .give) =
      ((fresh.after rules (events.map .give)).process rules event).2 := by
    rw [List.map_append, Running.after_append]
    rfl
  have guards : (fresh.after rules (events.map .give)).guards = [createdOnce] := by
    rw [Running.guards_after]
    simp [fresh, Handshake.tracker, List.filterMap_map, Function.comp_def, Command.guard?]
  have judged : (fresh.after rules (events.map .give)).judge rules event = .accepted target := by
    refine Running.judge_eq_accepted_iff.mpr ⟨provided, ?_⟩
    rw [guards, List.forall_mem_singleton]
    exact createdOnce_allows_of_isWord (isWord_after _) provided
  unfold Speaks
  rw [last, process_of_accepted judged]
  refine ⟨?_, rfl⟩
  unfold wordOf moved
  rw [List.map_append]
  rfl

/-- The words are exactly what new machines speak. -/
theorem isWord_iff_exists_speaks {word : List Kind} {state : HandshakeState} :
    IsWord word state ↔ ∃ events, Speaks events word state := by
  constructor
  · intro spoken
    -- words are spoken event by event, each exchange one more of the same
    have running : ∀ exchanges, ∃ events, Speaks events
        (.contextCreated :: List.replicate exchanges .tokenExchanged) .inProgress := by
      intro exchanges
      induction exchanges with
      | zero =>
        have begun : Speaks [] [] .notStarted := ⟨rfl, rfl⟩
        exact ⟨_, begun.concat (.contextCreated "") rfl⟩
      | succ n ih =>
        obtain ⟨events, speaks⟩ := ih
        rw [List.replicate_succ', ← List.cons_append]
        exact ⟨_, speaks.concat (.tokenExchanged 0 none) rfl⟩
    cases spoken with
    | empty => exact ⟨[], rfl, rfl⟩
    | failed =>
      have begun : Speaks [] [] .notStarted := ⟨rfl, rfl⟩
      exact ⟨_, begun.concat (.negotiationFailed "") rfl⟩
    | running exchanges => exact running exchanges
    | established exchanges =>
      obtain ⟨events, speaks⟩ := running exchanges
      exact ⟨_, speaks.concat (.contextEstablished 0 none) rfl⟩
    | broken exchanges =>
      obtain ⟨events, speaks⟩ := running exchanges
      exact ⟨_, speaks.concat (.negotiationFailed "") rfl⟩
  · rintro ⟨events, rfl, rfl⟩
    exact isWord_after _

/-- An event is judged as if there were only the guards registered from outside. -/
theorem judge_without_createdOnce {tracker : Tracker}
    (spoken : IsWord (wordOf tracker) tracker.state)
    (extra : List (Machine.Guard HandshakeState Kind Event))
    (guards : tracker.guards = createdOnce :: extra) (event : Event) :
    tracker.judge rules event = Running.judge rules { tracker with guards := extra } event := by
  cases provided : rules.next tracker.state (rules.kind event) with
  | none =>
    rw [Running.judge_of_none provided]
    symm
    apply Running.judge_of_none
    exact provided
  | some target =>
    have allowed := createdOnce_allows_of_isWord spoken provided
    have same : tracker.objection? target event =
        Running.objection? { tracker with guards := extra } target event := by
      unfold Running.objection?
      rw [guards, List.find?_cons_of_neg (by simp [allowed])]
    rw [Running.judge_of_some provided, same]
    symm
    apply Running.judge_of_some
    exact provided

/-- A terminal state provides for no event. -/
theorem next_of_isTerminal {state : HandshakeState} (terminal : state.isTerminal = true)
    (kind : Kind) : next state kind = none := by
  cases state with
  | notStarted | inProgress => cases terminal
  | established | failed => rfl

/-- Once a handshake is over, commands change its guards at most. -/
theorem after_of_isTerminal {tracker : Tracker} (terminal : tracker.state.isTerminal = true)
    (commands : List (Command HandshakeState Kind Event)) :
    (tracker.after rules commands).state = tracker.state ∧
      (tracker.after rules commands).history = tracker.history := by
  refine Running.after_invariant (fun last =>
    last.state = tracker.state ∧ last.history = tracker.history) ?_ ⟨rfl, rfl⟩ commands
  rintro last command ⟨state, history⟩
  rcases last.obey_cases rules command with ⟨event, target, rfl, judged, _⟩ | obeyed
  · have provided : next last.state event.kind = some target :=
      (Running.judge_eq_accepted_iff.mp judged).1
    rw [state, next_of_isTerminal terminal] at provided
    cases provided
  · rw [obeyed]
    exact ⟨state, history⟩

/-- The rounds of a word are counted by the names of classes, as no foreign class is recorded. -/
theorem rounds_eq_names {history : History} {state : HandshakeState}
    (spoken : IsWord (history.map (·.kind)) state) :
    rounds history = ((history.map (·.kind.name)).filter (fun name =>
      name == "TokenExchanged" || name == "ContextEstablished")).length := by
  rw [rounds, List.filter_map, List.length_map]
  congr 1
  apply List.filter_congr
  intro transition member
  have native : ∀ name, transition.kind ≠ .other name := by
    rintro name same
    exact spoken.ne_other name (same ▸ List.mem_map_of_mem member)
  cases kind : transition.kind with
  | contextCreated | tokenExchanged | contextEstablished | negotiationFailed =>
    simp [kind, Kind.name]
  | other name => exact absurd kind (native name)

/-- Whatever events a new handshake machine is given and whatever guards are registered in between:
its history is a word of its state and of no other, the rounds are the exchanges and the
establishment in this word, and once the handshake is over every event is refused and nothing
changes. The guard on context creation allows every move that the table provides for, so events are
judged as if it were not there. -/
theorem history_is_word (commands : List (Command HandshakeState Kind Event)) :
    let tracker := fresh.after rules commands
    (IsWord (tracker.history.map (·.kind)) tracker.state ∧
      ∀ state, IsWord (tracker.history.map (·.kind)) state → state = tracker.state) ∧
    rounds tracker.history = ((tracker.history.map (·.kind.name)).filter (fun name =>
      name == "TokenExchanged" || name == "ContextEstablished")).length ∧
    (tracker.state = .established ∨ tracker.state = .failed → ∀ later,
      let last := tracker.after rules later
      last.state = tracker.state ∧ last.history = tracker.history ∧
        rounds last.history = rounds tracker.history ∧
        ∀ event, (last.process rules event).1 = .refused) ∧
    ∀ event,
      (∀ target, next tracker.state event.kind = some target →
        createdOnce.allows tracker.state tracker.history target event = true) ∧
      tracker.judge rules event = Running.judge rules
        { tracker with guards := commands.filterMap Command.guard? } event := by
  intro tracker
  have spoken : IsWord (wordOf tracker) tracker.state := isWord_after commands
  refine ⟨⟨spoken, fun state again => spoken.unique again⟩, rounds_eq_names spoken, ?terminal,
    ?guarded⟩
  case terminal =>
    intro ended later last
    have terminal : tracker.state.isTerminal = true := by
      rcases ended with state | state <;> rw [state] <;> rfl
    obtain ⟨state, history⟩ := after_of_isTerminal terminal later
    refine ⟨state, history, congrArg rounds history, ?_⟩
    intro event
    rw [Running.process_fst]
    apply Running.judge_of_none
    rw [state]
    exact next_of_isTerminal terminal event.kind
  case guarded =>
    intro event
    refine ⟨fun target provided => createdOnce_allows_of_isWord spoken provided, ?_⟩
    apply judge_without_createdOnce spoken
    exact Running.guards_after rules fresh commands

end SignOn.Handshake
