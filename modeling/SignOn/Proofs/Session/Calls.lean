import SignOn.Proofs.Session.Steps

/-!
# Calls on a session

A session is driven by calls: one for every handshake round and one for every release, in any order.
A turn is one call with what came of it. `Session.turns` makes calls one after the other against any
collaborators; `Turn.isListed` says what a single turn can be, and `Leads.invariant` carries what
every turn keeps through a whole run.
-/

set_option autoImplicit false

namespace SignOn.Session

open Dialogue (Happening)

variable {P : Peers}

/-! ## Sound sessions -/

/-- A session that has just been opened. -/
def opened (host : String) (port : Int) (settings : Settings) (spn : String) : Session P :=
  { host := host, port := port, settings := settings, spn := spn }

/-- What every session keeps to: it has no guards but its own, nothing is created before the
handshake starts, there is a context while it is in progress, and nothing is held after the
release. -/
structure IsSound (session : Session P) : Prop where
  guards : session.handshake.guards = [Handshake.createdOnce]
  untried : session.handshake.state = .notStarted →
    session.handshake.history = [] ∧ session.context = none
  running : session.handshake.state = .inProgress → session.released = false →
    session.context ≠ none
  emptied : session.released = true → session = session.emptied

/-- A session that has just been opened is sound. -/
theorem isSound_opened (host : String) (port : Int) (settings : Settings) (spn : String) :
    (opened host port settings spn : Session P).IsSound where
  guards := rfl
  untried _ := ⟨rfl, rfl⟩
  running contradiction := by cases contradiction
  emptied contradiction := by cases contradiction

/-- Opening a session asks nothing of the peers, and what it gives has just been opened. -/
theorem start_opens {V : Type} {settings : Settings} {host : String} {port : Int}
    {history : List (Happening (Enrichment.collaborators V))} {session : Session P}
    (path : (start settings host port : Action (Enrichment.collaborators V) (Session P)).run.Path
      history (.ok session)) :
    session = opened host port settings session.spn := by
  unfold start at path
  cases given : settings.serverSpn
  all_goals
    simp only [given] at path
    obtain ⟨spn, _, _, _, _, path⟩ := Action.path_bind_ok path
    obtain ⟨enriched, _, _, _, _, path⟩ := Action.path_bind_ok path
    split at path
    · obtain ⟨_, _, _, _, _, path⟩ := Action.path_bind_ok path
      cases (Dialogue.path_done_iff.mp path).2
      rfl
    · cases (Dialogue.path_done_iff.mp path).2
      rfl

/-- A sound session stays so when its handshake moves on from the start, if it has a context by
then. -/
theorem IsSound.moved {session : Session P} (sound : session.IsSound) {target : HandshakeState}
    (event : Handshake.Event) (started : target ≠ .notStarted)
    (held : target = .inProgress → session.released = false → session.context ≠ none) :
    (session.moved target event).IsSound where
  guards := sound.guards
  untried contradiction := absurd contradiction started
  running running kept := held running kept
  emptied released := by
    have empty := sound.emptied released
    rw [empty]
    rfl

/-- A sound session stays so when its handshake ends. -/
theorem IsSound.ended {session : Session P} (sound : session.IsSound) (error : Error) :
    (session.ended error).IsSound := by
  unfold Session.ended
  split
  · exact sound
  · exact sound.moved _ (by simp) (by simp)

/-- A sound session stays so when it is released. -/
theorem IsSound.release {session : Session P} (sound : session.IsSound) :
    session.emptied.IsSound where
  guards := sound.guards
  untried untried := ⟨(sound.untried untried).1, rfl⟩
  running _ contradiction := by cases contradiction
  emptied _ := rfl

/-- A sound session stays so when it does not come by a context. -/
theorem Acquires.isSound {session after : Session P} {error : Error}
    {history : List (Happening P.collaborators)}
    (acquires : Acquires session history (.error error) after) (sound : session.IsSound)
    (kept : session.released = false) (untried : session.handshake.state = .notStarted) :
    after.IsSound := by
  have context_eq : after.context = session.context := by cases acquires <;> rfl
  have released_eq : after.released = session.released := by cases acquires <;> rfl
  have handshake_eq := acquires.handshake_eq
  constructor
  · rw [handshake_eq]
    exact sound.guards
  · rw [handshake_eq, context_eq]
    exact sound.untried
  · intro running
    rw [handshake_eq, untried] at running
    cases running
  · intro released
    rw [released_eq, kept] at released
    cases released

/-- A session that came by a context is sound once its handshake has started. -/
theorem Acquires.isSound_moved {session after : Session P} {context : P.Context}
    {history : List (Happening P.collaborators)}
    (acquires : Acquires session history (.ok context) after) (sound : session.IsSound)
    (kept : session.released = false) (event : Handshake.Event) :
    (after.moved .inProgress event).IsSound := by
  cases acquires with
  | created identifies credential =>
    exact {
      guards := sound.guards
      untried contradiction := by cases contradiction
      running _ _ contradiction := by cases contradiction
      emptied released := by
        have : session.released = true := released
        rw [kept] at this
        cases this }

/-- A sound session stays so in a round with its context. -/
theorem Rounds.isSound {session after : Session P} {context : P.Context} {token : Option Token}
    {history : List (Happening P.collaborators)} {outcome : Except Error (Option Token × Bool)}
    (rounds : Rounds session context token history outcome after) (sound : session.IsSound)
    (running : session.handshake.state = .inProgress) : after.IsSound := by
  cases rounds with
  | stepEscaped | questionRaised => exact sound
  | stepReported error | noToken => exact sound.ended _
  | established out => exact sound.moved _ (by simp) (by simp)
  | exchanged bytes => exact sound.moved _ (by simp) (fun _ => sound.running running)

/-! ## What a handshake round can do -/

/-- The error with which a session turns a round down. -/
def refusal? (session : Session P) : Option Error :=
  if session.released then some .sessionReleased
  else if session.handshake.state.isTerminal then
    some (.handshakeOver session.handshake.state)
  else none

/-- A handshake round on a sound session: it is refused, it fails to come by a context, or it passes
the token on with the context that it has by then. -/
inductive Generates (session : Session P) (token : Option Token) :
    List (Happening P.collaborators) → Except Error (Option Token × Bool) → Session P → Prop where
  | refused (error : Error) (refusal : session.refusal? = some error) (reply : Except Error Unit) :
      Generates session token (session.reporting error reply) (.error (leaving error reply))
        (session.ended error)
  | acquisitionEscaped {history : List (Happening P.collaborators)} {error : Error}
      {after : Session P} (kept : session.released = false)
      (untried : session.handshake.state = .notStarted)
      (acquires : Acquires session history (.error error) after)
      (escapes : error.isA .authentication = false) :
      Generates session token history (.error error) after
  | acquisitionReported {history : List (Happening P.collaborators)} {error : Error}
      {middle : Session P} (kept : session.released = false)
      (untried : session.handshake.state = .notStarted)
      (acquires : Acquires session history (.error error) middle)
      (authentication : error.isA .authentication = true) (reply : Except Error Unit) :
      Generates session token
        (history ++ middle.noting (.initializationFailed error.message) ::
          middle.reporting error reply)
        (.error (leaving error reply)) (middle.ended error)
  | firstRound {earlier later : List (Happening P.collaborators)} {context : P.Context}
      {middle after : Session P} {outcome : Except Error (Option Token × Bool)}
      (kept : session.released = false) (untried : session.handshake.state = .notStarted)
      (acquires : Acquires session earlier (.ok context) middle)
      (rounds : Rounds (middle.moved .inProgress (.contextCreated middle.spn)) context token later
        outcome after) :
      Generates session token
        (earlier ++ middle.moving .inProgress (.contextCreated middle.spn) :: later) outcome after
  | laterRound {history : List (Happening P.collaborators)} {context : P.Context}
      {after : Session P} {outcome : Except Error (Option Token × Bool)}
      (kept : session.released = false) (running : session.handshake.state = .inProgress)
      (held : session.context = some context)
      (rounds : Rounds session context token history outcome after) :
      Generates session token history outcome after

/-- A session whose handshake has not started sets up a context, or fails to. -/
theorem path_setUp {session after : Session P} {history : List (Happening P.collaborators)}
    {outcome : Except Error P.Context} (sound : session.IsSound)
    (untried : session.handshake.state = .notStarted)
    (path : (setUp.start session).Path history (outcome, after)) :
    (∃ context middle earlier, Acquires session earlier (.ok context) middle ∧
      history = earlier ++ [middle.moving .inProgress (.contextCreated middle.spn)] ∧
      outcome = .ok context ∧ after = middle.moved .inProgress (.contextCreated middle.spn)) ∨
    (∃ error, Acquires session history (.error error) after ∧
      error.isA .authentication = false ∧ outcome = .error error) ∨
    ∃ error middle earlier reply, Acquires session earlier (.error error) middle ∧
      error.isA .authentication = true ∧
      history = earlier ++ middle.noting (.initializationFailed error.message) ::
        middle.reporting error reply ∧
      outcome = .error (leaving error reply) ∧ after = middle.ended error := by
  -- the guards are those of the sound session, as obtaining a context does not touch the handshake
  have guards : ∀ earlier error middle,
      (obtainContext.start session).Path earlier (.error error, middle) →
        middle.handshake.guards = [Handshake.createdOnce] := by
    intro earlier error middle path
    rw [(path_obtainContext path).handshake_eq]
    exact sound.guards
  unfold setUp at path
  rcases Procedure.path_bind path with
    ⟨error, first, rfl⟩ | ⟨context, middle, earlier, later, rfl, first, rest⟩
  · rcases path_guarded guards first with
      ⟨_, _, contradiction⟩ | ⟨_, part, escapes, same⟩ |
        ⟨error, middle, earlier, reply, part, authentication, rfl, same, rfl⟩
    · cases contradiction
    · cases same
      exact .inr (.inl ⟨error, path_obtainContext part, escapes, rfl⟩)
    · cases same
      exact .inr (.inr ⟨error, middle, earlier, reply, path_obtainContext part, authentication,
        rfl, rfl, rfl⟩)
  · rcases path_guarded guards first with
      ⟨_, part, same⟩ | ⟨_, _, _, contradiction⟩ | ⟨_, _, _, _, _, _, _, contradiction, _⟩
    · cases same
      have acquires := path_obtainContext part
      -- the handshake has not started, so its history is empty and the guard lets the creation pass
      have accepted : middle.handshake.judge Handshake.rules (.contextCreated middle.spn) =
          .accepted .inProgress := by
        apply Handshake.judge_eq_accepted
        · rw [acquires.handshake_eq]
          exact sound.guards
        · rw [acquires.handshake_eq, untried]
          rfl
        · intro _
          rw [acquires.handshake_eq, (sound.untried untried).1]
          rfl
      rw [Procedure.start_get_bind] at rest
      obtain ⟨_, rfl, advanced⟩ := path_advance_bind accepted rest
      obtain ⟨rfl, rfl, rfl⟩ := Procedure.path_pure advanced
      exact .inl ⟨context, middle, earlier, acquires, rfl, rfl, rfl⟩
    · cases contradiction
    · cases contradiction

/-- Every handshake round on a sound session is listed. -/
theorem path_generate {session after : Session P} {token : Option Token}
    {history : List (Happening P.collaborators)} {outcome : Except Error (Option Token × Bool)}
    (sound : session.IsSound)
    (path : ((generate token).start session).Path history (outcome, after)) :
    Generates session token history outcome after := by
  unfold generate at path
  rw [Procedure.start_get_bind] at path
  -- the checks come in the order in which a round makes them, each a refusal of its own
  cases released : session.released with
  | true =>
    simp only [released, if_true] at path
    obtain ⟨reply, rfl, rfl, rfl⟩ := path_fail sound.guards path
    exact .refused _ (by simp [refusal?, released]) reply
  | false =>
  simp only [released, Bool.false_eq_true, if_false] at path
  cases finished : session.handshake.state.isTerminal with
  | true =>
    simp only [finished, if_true] at path
    obtain ⟨reply, rfl, rfl, rfl⟩ := path_fail sound.guards path
    exact .refused _ (by simp [refusal?, released, finished]) reply
  | false =>
  simp only [finished, Bool.false_eq_true, if_false] at path
  cases held : session.context with
  | some context =>
    have running : session.handshake.state = .inProgress := by
      cases state : session.handshake.state with
      | notStarted => simp [(sound.untried state).2] at held
      | inProgress => rfl
      | established | failed => simp [state, HandshakeState.isTerminal] at finished
    simp only [held] at path
    exact .laterRound released running held (path_round sound.guards running path)
  | none =>
    have untried : session.handshake.state = .notStarted := by
      cases state : session.handshake.state with
      | notStarted => rfl
      | inProgress => exact absurd held (sound.running state released)
      | established | failed => simp [state, HandshakeState.isTerminal] at finished
    simp only [held] at path
    rcases Procedure.path_bind path with
      ⟨error, settingUp, rfl⟩ | ⟨context, middle, earlier, later, rfl, settingUp, rest⟩
    · rcases path_setUp sound untried settingUp with
        ⟨_, _, _, _, _, contradiction, _⟩ | ⟨_, acquires, escapes, same⟩ |
          ⟨error, middle, earlier, reply, acquires, authentication, rfl, same, rfl⟩
      · cases contradiction
      · cases same
        exact .acquisitionEscaped released untried acquires escapes
      · cases same
        exact .acquisitionReported released untried acquires authentication reply
    · rcases path_setUp sound untried settingUp with
        ⟨_, middle, earlier, acquires, rfl, same, rfl⟩ | ⟨_, _, _, contradiction⟩ |
          ⟨_, _, _, _, _, _, _, contradiction, _⟩
      · cases same
        have sound := acquires.isSound_moved sound released (.contextCreated middle.spn)
        rw [List.append_assoc]
        exact .firstRound released untried acquires (path_round sound.guards rfl rest)
      · cases contradiction
      · cases contradiction

/-- A sound session stays so in every handshake round. -/
theorem Generates.isSound {session after : Session P} {token : Option Token}
    {history : List (Happening P.collaborators)} {outcome : Except Error (Option Token × Bool)}
    (generates : Generates session token history outcome after) (sound : session.IsSound) :
    after.IsSound := by
  cases generates with
  | refused error => exact sound.ended error
  | acquisitionEscaped kept untried acquires => exact acquires.isSound sound kept untried
  | acquisitionReported kept untried acquires =>
    exact (acquires.isSound sound kept untried).ended _
  | firstRound kept untried acquires rounds =>
    exact rounds.isSound (acquires.isSound_moved sound kept _) rfl
  | laterRound kept running held rounds => exact rounds.isSound sound running

/-! ## Calls and turns -/

/-- A call on a session. -/
inductive Call where
  /-- One handshake round with a token of the server. -/
  | generate (token : Option Token)
  | release
  deriving DecidableEq

/-- What a call does; only a handshake round gives something back. -/
def Call.work : Call → Work P (Option (Option Token × Bool))
  | .generate token => some <$> Session.generate token
  | .release => do
    Session.release
    return none

/-- A call, the session before it, what happened during it, what came of it and the session after
it. -/
structure Turn (P : Peers) where
  call : Call
  before : Session P
  history : List (Happening P.collaborators)
  outcome : Except Error (Option (Option Token × Bool))
  after : Session P

/-- Makes calls on a session, one after the other, whatever comes of each. -/
def turns {σ : Type} (answer : Dialogue.Answerer P.collaborators σ) :
    Session P → List Call → σ → List (Turn P)
  | _, [], _ => []
  | session, call :: calls, state =>
    let run := (call.work.start session).run answer state
    ⟨call, session, run.history, run.value.1, run.value.2⟩ ::
      turns answer run.value.2 calls run.state

/-- The session after some turns. -/
def afterTurns : Session P → List (Turn P) → Session P
  | session, [] => session
  | _, turn :: turns => afterTurns turn.after turns

/-- All that happened during some turns. -/
def happenings (turns : List (Turn P)) : List (Happening P.collaborators) :=
  turns.flatMap Turn.history

/-- What happens in turns is what happens in the first and then in the others. -/
@[simp] theorem happenings_cons (turn : Turn P) (turns : List (Turn P)) :
    happenings (turn :: turns) = turn.history ++ happenings turns := rfl

/-- What happens in two lists of turns is what happens in the one and then in the other. -/
@[simp] theorem happenings_append (earlier later : List (Turn P)) :
    happenings (earlier ++ later) = happenings earlier ++ happenings later := by
  simp [happenings]

/-- What a turn on a sound session can be. -/
inductive Turn.IsListed : Turn P → Prop where
  | generate {before after : Session P} {history : List (Happening P.collaborators)}
      {result : Except Error (Option Token × Bool)} (token : Option Token)
      (generates : Generates before token history result after) :
      IsListed ⟨.generate token, before, history, some <$> result, after⟩
  | release {before : Session P} {history : List (Happening P.collaborators)}
      (givesBack : GivesBack before.emptied before.holdings history) :
      IsListed ⟨.release, before, history, .ok none, before.emptied⟩

/-- Every path through a call on a sound session is listed. -/
theorem Turn.isListed {turn : Turn P} (sound : turn.before.IsSound)
    (path : (turn.call.work.start turn.before).Path turn.history (turn.outcome, turn.after)) :
    turn.IsListed := by
  obtain ⟨call, before, history, outcome, after⟩ := turn
  cases call with
  | generate token =>
    simp only [Call.work, Procedure.start_map, Dialogue.path_bind_iff, Dialogue.path_done_iff,
      Prod.mk.injEq] at path
    obtain ⟨_, ⟨result, _⟩, _, rfl, path, rfl, rfl, rfl⟩ := path
    rw [List.append_nil]
    exact .generate token (path_generate sound path)
  | release =>
    rcases Procedure.path_bind path with
      ⟨_, contradiction, _⟩ | ⟨_, _, earlier, _, rfl, path, rest⟩
    · cases (path_release contradiction).1
    · obtain ⟨_, rfl, givesBack⟩ := path_release path
      simp only [Procedure.start_pure, Dialogue.path_done_iff, Prod.mk.injEq] at rest
      obtain ⟨rfl, rfl, rfl⟩ := rest
      rw [List.append_nil]
      exact .release givesBack

/-- A sound session stays so in every turn. -/
theorem Turn.IsListed.isSound {turn : Turn P} (listed : turn.IsListed)
    (sound : turn.before.IsSound) : turn.after.IsSound := by
  cases listed with
  | generate token generates => exact generates.isSound sound
  | release givesBack => exact sound.release

/-- Listed turns lead from one session to another. -/
inductive Leads : Session P → List (Turn P) → Session P → Prop where
  | none (session : Session P) : Leads session [] session
  | turn {turn : Turn P} {turns : List (Turn P)} {last : Session P} (listed : turn.IsListed)
      (sound : turn.before.IsSound) (rest : Leads turn.after turns last) :
      Leads turn.before (turn :: turns) last

/-- The turns of any calls against any peers lead from a sound session to the one after them. -/
theorem leads_turns {σ : Type} (answer : Dialogue.Answerer P.collaborators σ)
    {session : Session P} (sound : session.IsSound) (calls : List Call) (state : σ) :
    Leads session (turns answer session calls state)
      (afterTurns session (turns answer session calls state)) := by
  induction calls generalizing session state with
  | nil => exact .none session
  | cons call calls ih =>
    have listed : Turn.IsListed ⟨call, session, _, _, _⟩ :=
      Turn.isListed sound (Dialogue.run_path answer (call.work.start session) state)
    exact .turn listed sound (ih (listed.isSound sound) _)

/-- Turns that lead somewhere can be cut in two anywhere. -/
theorem Leads.split {session last : Session P} {earlier later : List (Turn P)}
    (leads : Leads session (earlier ++ later) last) :
    ∃ middle, Leads session earlier middle ∧ Leads middle later last := by
  induction earlier generalizing session with
  | nil => exact ⟨session, .none session, leads⟩
  | cons turn earlier ih =>
    cases leads with
    | turn listed sound rest =>
      obtain ⟨middle, first, second⟩ := ih rest
      exact ⟨middle, .turn listed sound first, second⟩

/-- What every turn keeps, a whole run keeps; it may speak of all that happened so far, and rely
on a property of whatever happens. -/
theorem Leads.invariant {holds : Session P → List (Happening P.collaborators) → Prop}
    {given : Happening P.collaborators → Prop}
    (step : ∀ (past : List (Happening P.collaborators)) (turn : Turn P),
      turn.IsListed → turn.before.IsSound → (∀ happening ∈ turn.history, given happening) →
        holds turn.before past → holds turn.after (past ++ turn.history))
    {session last : Session P} {turns : List (Turn P)} {past : List (Happening P.collaborators)}
    (leads : Leads session turns last) (all : ∀ happening ∈ happenings turns, given happening)
    (start : holds session past) : holds last (past ++ happenings turns) := by
  induction leads generalizing past with
  | none session =>
    rw [happenings, List.flatMap_nil, List.append_nil]
    exact start
  | @turn turn turns last listed sound rest ih =>
    rw [happenings_cons, List.forall_mem_append] at all
    have next := step past turn listed sound all.1 start
    have found := ih all.2 next
    rw [List.append_assoc, ← happenings_cons] at found
    exact found

end SignOn.Session
