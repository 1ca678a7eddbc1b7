import SignOn.Principal
import SignOn.Proofs.Dialogue.Path
import SignOn.Proofs.Handshake.Acceptance
import SignOn.Session.Basic

/-!
# The steps of a session

What each part of a handshake round can do, as a relation between the session before it, what
happens, the outcome and the session after it: reporting a fatal error (`Session.path_fail`),
running a part whose authentication errors are fatal (`Session.path_guarded`), coming by a context
(`Session.Acquires`), passing one token on (`Session.Rounds`) and giving things back
(`Session.GivesBack`). Every path through a part is among those that its relation lists, so later
proofs go by the relations and open no part again.
-/

set_option autoImplicit false

namespace SignOn.Session

open Dialogue (Happening)

variable {P : Peers} {α : Type}

/-! ## What a session does by itself -/

/-- The session once its handshake accepted an event that leads to a state. -/
def moved (session : Session P) (target : HandshakeState) (event : Handshake.Event) : Session P :=
  { session with handshake := Handshake.moved session.handshake target event }

/-- What is logged when the handshake accepts an event. -/
def moving (session : Session P) (target : HandshakeState) (event : Handshake.Event) :
    Happening P.collaborators :=
  .logged (.stateTransition session.handshake.state.name target.name event.kind.name)

/-- What is logged when the session notes an event of its own. -/
def noting (session : Session P) (event : SessionEvent) : Happening P.collaborators :=
  .logged (.session session.host session.port event)

/-- An event that a session notes is logged with its host and port. -/
theorem start_note (event : SessionEvent) (session : Session P) :
    (note event : Work P Unit).start session =
      .log (.session session.host session.port event) (.done (.ok (), session)) := by
  unfold note
  rw [Procedure.start_get_bind, Procedure.start_log]

/-- To ask a peer is to ask a request. -/
theorem start_ask (request : Peers.Request P) (session : Session P) :
    (ask request).start session = .ask request (fun reply => .done (reply, session)) := rfl

/-- A request is one happening, and it leaves the session as it is. -/
theorem path_ask {request : Peers.Request P} {session after : Session P}
    {history : List (Happening P.collaborators)} {outcome : Except Error (Peers.Reply request)}
    (path : ((ask request).start session).Path history (outcome, after)) :
    history = [.asked request outcome] ∧ after = session := by
  rw [start_ask, Dialogue.path_ask_iff] at path
  obtain ⟨reply, _, rfl, path⟩ := path
  simp only [Dialogue.path_done_iff, Prod.mk.injEq] at path
  obtain ⟨rfl, rfl, rfl⟩ := path
  exact ⟨rfl, rfl⟩

/-- Noting an event is one happening. -/
theorem path_note {event : SessionEvent} {session after : Session P}
    {history : List (Happening P.collaborators)} {outcome : Except Error Unit}
    (path : ((note event).start session).Path history (outcome, after)) :
    history = [session.noting event] ∧ outcome = .ok () ∧ after = session := by
  rw [start_note, Dialogue.path_log_iff] at path
  obtain ⟨_, rfl, path⟩ := path
  simp only [Dialogue.path_done_iff, Prod.mk.injEq] at path
  obtain ⟨rfl, rfl, rfl⟩ := path
  exact ⟨rfl, rfl, rfl⟩

/-- A session that asks a peer goes on with the reply, or ends with the error that is raised. -/
theorem path_ask_bind {request : Peers.Request P} {next : Peers.Reply request → Work P α}
    {session after : Session P} {history : List (Happening P.collaborators)}
    {outcome : Except Error α}
    (path : ((ask request >>= next).start session).Path history (outcome, after)) :
    (∃ error, history = [.asked request (.error error)] ∧ outcome = .error error ∧
      after = session) ∨
    ∃ reply later, history = .asked request (.ok reply) :: later ∧
      ((next reply).start session).Path later (outcome, after) := by
  rcases Procedure.path_bind path with
    ⟨error, first, same⟩ | ⟨reply, middle, earlier, later, rfl, first, rest⟩
  · obtain ⟨rfl, rfl⟩ := path_ask first
    exact .inl ⟨error, rfl, same, rfl⟩
  · obtain ⟨rfl, rfl⟩ := path_ask first
    exact .inr ⟨reply, later, rfl, rest⟩

/-- To note an event before something else puts one happening before it. -/
theorem path_note_bind {event : SessionEvent} {next : Unit → Work P α}
    {session after : Session P} {history : List (Happening P.collaborators)}
    {outcome : Except Error α}
    (path : ((note event >>= next).start session).Path history (outcome, after)) :
    ∃ later, history = session.noting event :: later ∧
      ((next ()).start session).Path later (outcome, after) := by
  rcases Procedure.path_bind path with
    ⟨error, first, same⟩ | ⟨_, middle, earlier, later, rfl, first, rest⟩
  · cases (path_note first).2.1
  · obtain ⟨rfl, _, rfl⟩ := path_note first
    exact ⟨later, rfl, rest⟩

/-- An accepted event is logged and moves the session. -/
theorem start_give {session : Session P} {target : HandshakeState} {event : Handshake.Event}
    (accepted : session.handshake.judge Handshake.rules event = .accepted target) :
    (give event).start session =
      .log (.stateTransition session.handshake.state.name target.name event.kind.name)
        (.done (.ok (.accepted target), session.moved target event)) := by
  unfold give
  rw [Procedure.start_get_bind]
  simp only [Handshake.process_of_accepted accepted, Handshake.logged_of_accepted accepted,
    Procedure.start_bind, Procedure.start_log, Procedure.start_set, Procedure.start_pure,
    Dialogue.log_bind, Dialogue.done_bind, moved]

/-- A session goes on after an event that it gives to its handshake and that is accepted. -/
theorem path_give_bind {session after : Session P} {target : HandshakeState}
    {event : Handshake.Event} {next : Machine.Verdict HandshakeState → Work P α}
    {history : List (Happening P.collaborators)} {outcome : Except Error α}
    (accepted : session.handshake.judge Handshake.rules event = .accepted target)
    (path : ((give event >>= next).start session).Path history (outcome, after)) :
    ∃ later, history = session.moving target event :: later ∧
      ((next (.accepted target)).start (session.moved target event)).Path later
        (outcome, after) := by
  rw [Procedure.start_bind, start_give accepted] at path
  exact Dialogue.path_log_iff.mp path

/-- A session goes on after an event that it expects to be accepted when it is. -/
theorem path_advance_bind {session after : Session P} {target : HandshakeState}
    {event : Handshake.Event} {next : Unit → Work P α}
    {history : List (Happening P.collaborators)} {outcome : Except Error α}
    (accepted : session.handshake.judge Handshake.rules event = .accepted target)
    (path : ((advance event >>= next).start session).Path history (outcome, after)) :
    ∃ later, history = session.moving target event :: later ∧
      ((next ()).start (session.moved target event)).Path later (outcome, after) := by
  have advancing : (advance event : Work P Unit).start session =
      .log (.stateTransition session.handshake.state.name target.name event.kind.name)
        (.done (.ok (), session.moved target event)) := by
    unfold advance
    rw [Procedure.start_get_bind, Procedure.start_bind, start_give accepted]
    rfl
  rw [Procedure.start_bind, advancing] at path
  exact Dialogue.path_log_iff.mp path

/-- A handshake in progress accepts every event that the table provides for. -/
theorem judge_running {session : Session P} {target : HandshakeState} (event : Handshake.Event)
    (guards : session.handshake.guards = [Handshake.createdOnce])
    (running : session.handshake.state = .inProgress)
    (provided : Handshake.next .inProgress event.kind = some target) :
    session.handshake.judge Handshake.rules event = .accepted target := by
  apply Handshake.judge_eq_accepted guards
  · rw [running]
    exact provided
  · intro creation
    rw [creation] at provided
    cases provided

/-! ## Fatal errors -/

/-- What leaves a session that reported a fatal error: the error that the connection raised, or the
end of the attempt if it raised none. -/
def leaving (error : Error) : Except Error Unit → Error
  | .error raised => raised
  | .ok () => .attemptEnded integratedAuthenticationFailed (some error)

/-- The session once a fatal error was reported: its handshake failed, unless it was over. -/
def ended (session : Session P) (error : Error) : Session P :=
  if session.handshake.state.isTerminal then session
  else session.moved .failed (.negotiationFailed error.message)

/-- What happens when a fatal error is reported. -/
def reporting (session : Session P) (error : Error) (reply : Except Error Unit) :
    List (Happening P.collaborators) :=
  (if session.handshake.state.isTerminal then []
    else [session.moving .failed (.negotiationFailed error.message)]) ++
    [.asked (.report integratedAuthenticationFailed error) reply]

/-- A fatal error fails the handshake, is reported once, and lets no value through. -/
theorem path_fail {session after : Session P} {error : Error}
    {history : List (Happening P.collaborators)} {outcome : Except Error α}
    (guards : session.handshake.guards = [Handshake.createdOnce])
    (path : ((fail error : Work P α).start session).Path history (outcome, after)) :
    ∃ reply, history = session.reporting error reply ∧ outcome = .error (leaving error reply) ∧
      after = session.ended error := by
  -- the report is the same whether the handshake was over or is failed first
  have reported : ∀ {middle : Session P} {later : List (Happening P.collaborators)},
      ((do ask (.report integratedAuthenticationFailed error)
           throw (.attemptEnded integratedAuthenticationFailed (some error)) :
        Work P α).start middle).Path later (outcome, after) →
      ∃ reply, later = [.asked (.report integratedAuthenticationFailed error) reply] ∧
        outcome = .error (leaving error reply) ∧ after = middle := by
    intro middle later path
    rcases path_ask_bind path with ⟨raised, rfl, rfl, rfl⟩ | ⟨_, _, rfl, replied⟩
    · exact ⟨.error raised, rfl, rfl, rfl⟩
    · obtain ⟨rfl, rfl, rfl⟩ := Procedure.path_throw replied
      exact ⟨.ok (), rfl, rfl, rfl⟩
  unfold fail at path
  rw [Procedure.start_get_bind] at path
  cases finished : session.handshake.state.isTerminal with
  | true =>
    simp only [finished, Bool.not_true, Bool.false_eq_true, if_false] at path
    obtain ⟨reply, rfl, rfl, rfl⟩ := reported path
    refine ⟨reply, ?_, rfl, ?_⟩
    · simp only [reporting, finished, if_true, List.nil_append]
    · simp only [ended, finished, if_true]
  | false =>
    have accepted : session.handshake.judge Handshake.rules (.negotiationFailed error.message) =
        .accepted .failed := by
      apply Handshake.judge_eq_accepted guards
      · cases state : session.handshake.state with
        | notStarted | inProgress => rfl
        | established | failed =>
          rw [state] at finished
          cases finished
      · intro creation
        cases creation
    simp only [finished, Bool.not_false, if_true] at path
    obtain ⟨later, rfl, given⟩ := path_give_bind accepted path
    obtain ⟨reply, rfl, rfl, rfl⟩ := reported given
    refine ⟨reply, ?_, rfl, ?_⟩
    · simp only [reporting, finished, Bool.false_eq_true, if_false, List.singleton_append]
    · simp only [ended, finished, Bool.false_eq_true, if_false]

/-- A guarded part ends with its value, with an error that is no authentication error, or with the
report of one that is. -/
theorem path_guarded {noted : String → SessionEvent} {part : Work P α} {session after : Session P}
    {history : List (Happening P.collaborators)} {outcome : Except Error α}
    (guards : ∀ earlier error middle, (part.start session).Path earlier (.error error, middle) →
      middle.handshake.guards = [Handshake.createdOnce])
    (path : ((guarded noted part).start session).Path history (outcome, after)) :
    (∃ value, (part.start session).Path history (.ok value, after) ∧ outcome = .ok value) ∨
    (∃ error, (part.start session).Path history (.error error, after) ∧
      error.isA .authentication = false ∧ outcome = .error error) ∨
    ∃ error middle earlier reply, (part.start session).Path earlier (.error error, middle) ∧
      error.isA .authentication = true ∧
      history = earlier ++ middle.noting (noted error.message) :: middle.reporting error reply ∧
      outcome = .error (leaving error reply) ∧ after = middle.ended error := by
  unfold guarded at path
  rcases Procedure.path_bind path with
    ⟨_, first, _⟩ | ⟨result, middle, earlier, later, rfl, first, rest⟩
  · obtain ⟨_, contradiction, _⟩ := Procedure.path_attempt first
    cases contradiction
  obtain ⟨_, attempted, first⟩ := Procedure.path_attempt first
  cases attempted
  cases result with
  | ok value =>
    obtain ⟨rfl, rfl, rfl⟩ := Procedure.path_pure rest
    rw [List.append_nil]
    exact .inl ⟨value, first, rfl⟩
  | error error =>
    cases authentication : error.isA .authentication with
    | false =>
      simp only [authentication, Bool.false_eq_true, if_false] at rest
      obtain ⟨rfl, rfl, rfl⟩ := Procedure.path_throw rest
      rw [List.append_nil]
      exact .inr (.inl ⟨error, first, authentication, rfl⟩)
    | true =>
      simp only [authentication, if_true] at rest
      obtain ⟨later, rfl, failing⟩ := path_note_bind rest
      obtain ⟨reply, rfl, rfl, rfl⟩ := path_fail (guards _ _ _ first) failing
      exact .inr (.inr ⟨error, middle, earlier, reply, first, authentication, rfl, rfl, rfl⟩)

/-! ## Coming by a context -/

/-- A session comes by an identity: by the ambient one, or by one from an explicit login. -/
inductive Identifies (session : Session P) :
    Origin → List (Happening P.collaborators) → P.Identity → Prop where
  | ambient (identity : P.Identity) :
      Identifies session .ambient [.asked .ambientIdentity (.ok (some identity))] identity
  | login (identity : P.Identity) :
      Identifies session .login
        [.asked .ambientIdentity (.ok none), session.noting (.loginStart session.settings.login),
          .asked (.login session.settings.login) (.ok identity)]
        identity

/-- The session once it has an identity of some origin. -/
def identified (session : Session P) (origin : Origin) (identity : P.Identity) : Session P :=
  { session with
    identity := some identity
    loggedIn := session.loggedIn || decide (origin = .login) }

/-- A session tries to come by a context, and stops at the first error. -/
inductive Acquires (session : Session P) :
    List (Happening P.collaborators) → Except Error P.Context → Session P → Prop where
  | ambientRaised (error : Error) :
      Acquires session [.asked .ambientIdentity (.error error)] (.error error) session
  | loginRaised (error : Error) :
      Acquires session
        [.asked .ambientIdentity (.ok none), session.noting (.loginStart session.settings.login),
          .asked (.login session.settings.login) (.error error)]
        (.error error) session
  | credentialRaised {origin : Origin} {found : List (Happening P.collaborators)}
      {identity : P.Identity} (identifies : Identifies session origin found identity)
      (error : Error) :
      Acquires session
        (found ++ [session.noting .acquiringCredential,
          .asked (.acquireCredential identity kerberosMechanism) (.error error)])
        (.error error) (session.identified origin identity)
  | contextRaised {origin : Origin} {found : List (Happening P.collaborators)}
      {identity : P.Identity} (identifies : Identifies session origin found identity)
      (credential : P.Credential) (error : Error) :
      Acquires session
        (found ++ [session.noting .acquiringCredential,
          .asked (.acquireCredential identity kerberosMechanism) (.ok credential),
          session.noting (.creatingContext session.spn),
          .asked (.createContext session.spn kerberosMechanism credential) (.error error)])
        (.error error)
        { session.identified origin identity with credential := some credential }
  | created {origin : Origin} {found : List (Happening P.collaborators)}
      {identity : P.Identity} (identifies : Identifies session origin found identity)
      (credential : P.Credential) (context : P.Context) :
      Acquires session
        (found ++ [session.noting .acquiringCredential,
          .asked (.acquireCredential identity kerberosMechanism) (.ok credential),
          session.noting (.creatingContext session.spn),
          .asked (.createContext session.spn kerberosMechanism credential) (.ok context)])
        (.ok context)
        { session.identified origin identity with
          credential := some credential
          context := some context }

/-- A session comes by an identity or by the error that kept it from one; all that changes is
whether it logged in. -/
theorem path_obtainIdentity {session after : Session P}
    {history : List (Happening P.collaborators)} {outcome : Except Error P.Identity}
    (path : (obtainIdentity.start session).Path history (outcome, after)) :
    (∃ origin identity, Identifies session origin history identity ∧ outcome = .ok identity ∧
      after = { session with loggedIn := session.loggedIn || decide (origin = .login) }) ∨
    ∃ error, Acquires session history (.error error) after ∧ outcome = .error error := by
  unfold obtainIdentity at path
  rw [Procedure.start_get_bind] at path
  rcases path_ask_bind path with ⟨error, rfl, rfl, rfl⟩ | ⟨ambient, later, rfl, replied⟩
  · exact .inr ⟨error, .ambientRaised error, rfl⟩
  cases ambient with
  | some identity =>
    obtain ⟨rfl, rfl, rfl⟩ := Procedure.path_pure replied
    exact .inl ⟨.ambient, identity, .ambient identity, rfl, by simp⟩
  | none =>
    obtain ⟨later, rfl, noted⟩ := path_note_bind replied
    rcases path_ask_bind noted with ⟨error, rfl, rfl, rfl⟩ | ⟨identity, later, rfl, found⟩
    · exact .inr ⟨error, .loginRaised error, rfl⟩
    · rw [Procedure.start_modify_bind] at found
      obtain ⟨rfl, rfl, rfl⟩ := Procedure.path_pure found
      exact .inl ⟨.login, identity, .login identity, rfl, by simp⟩

/-- Every way of coming by a context is listed. -/
theorem path_obtainContext {session after : Session P}
    {history : List (Happening P.collaborators)} {outcome : Except Error P.Context}
    (path : (obtainContext.start session).Path history (outcome, after)) :
    Acquires session history outcome after := by
  unfold obtainContext at path
  rcases Procedure.path_bind path with
    ⟨error, first, rfl⟩ | ⟨identity, middle, found, later, rfl, first, rest⟩
  · rcases path_obtainIdentity first with ⟨_, _, _, contradiction, _⟩ | ⟨_, acquires, same⟩
    · cases contradiction
    · cases same
      exact acquires
  rcases path_obtainIdentity first with ⟨origin, _, identifies, same, rfl⟩ | ⟨_, _, contradiction⟩
  · cases same
    rw [Procedure.start_modify_bind] at rest
    obtain ⟨later, rfl, acquiring⟩ := path_note_bind rest
    rcases path_ask_bind acquiring with
      ⟨error, rfl, rfl, rfl⟩ | ⟨credential, later, rfl, acquired⟩
    · exact .credentialRaised identifies error
    rw [Procedure.start_modify_bind, Procedure.start_get_bind] at acquired
    obtain ⟨later, rfl, creating⟩ := path_note_bind acquired
    rcases path_ask_bind creating with ⟨error, rfl, rfl, rfl⟩ | ⟨context, later, rfl, created⟩
    · exact .contextRaised identifies credential error
    · rw [Procedure.start_modify_bind] at created
      obtain ⟨rfl, rfl, rfl⟩ := Procedure.path_pure created
      exact .created identifies credential context
  · cases contradiction

/-- Coming by a context leaves the handshake alone. -/
theorem Acquires.handshake_eq {session after : Session P}
    {history : List (Happening P.collaborators)} {outcome : Except Error P.Context}
    (acquires : Acquires session history outcome after) : after.handshake = session.handshake := by
  cases acquires <;> rfl

/-! ## One round with a context -/

/-- The event of a round that leaves the handshake in progress. -/
def exchange (token : Option Token) (bytes : Token) : Handshake.Event :=
  .tokenExchanged (tokenLength token) (some bytes.length)

/-- The event of the round that establishes the context. -/
def establishment (token out : Option Token) : Handshake.Event :=
  .contextEstablished (tokenLength token) (out.map (fun bytes => (bytes.length : Int)))

/-- A session with a handshake in progress goes through one round with its context. -/
inductive Rounds (session : Session P) (context : P.Context) (token : Option Token) :
    List (Happening P.collaborators) → Except Error (Option Token × Bool) → Session P → Prop where
  | stepEscaped (error : Error) (escapes : error.isA .authentication = false) :
      Rounds session context token
        [session.noting (.sendingToken (tokenLength token)),
          .asked (.step context token) (.error error)]
        (.error error) session
  | stepReported (error : Error) (authentication : error.isA .authentication = true)
      (reply : Except Error Unit) :
      Rounds session context token
        (session.noting (.sendingToken (tokenLength token)) ::
          .asked (.step context token) (.error error) ::
          session.noting (.stepFailed error.message) :: session.reporting error reply)
        (.error (leaving error reply)) (session.ended error)
  | questionRaised (out : Option Token) (error : Error) :
      Rounds session context token
        [session.noting (.sendingToken (tokenLength token)),
          .asked (.step context token) (.ok out), .asked (.isEstablished context) (.error error)]
        (.error error) session
  | established (out : Option Token) :
      Rounds session context token
        [session.noting (.sendingToken (tokenLength token)),
          .asked (.step context token) (.ok out), .asked (.isEstablished context) (.ok true),
          session.moving .established (establishment token out),
          session.noting
            (.established (session.moved .established (establishment token out)).rounds)]
        (.ok (out, true)) (session.moved .established (establishment token out))
  | noToken (reply : Except Error Unit) :
      Rounds session context token
        (session.noting (.sendingToken (tokenLength token)) ::
          .asked (.step context token) (.ok none) :: .asked (.isEstablished context) (.ok false) ::
          session.noting .noToken :: session.reporting .noToken reply)
        (.error (leaving .noToken reply)) (session.ended .noToken)
  | exchanged (bytes : Token) :
      Rounds session context token
        [session.noting (.sendingToken (tokenLength token)),
          .asked (.step context token) (.ok (some bytes)),
          .asked (.isEstablished context) (.ok false),
          session.moving .inProgress (exchange token bytes)]
        (.ok (some bytes, false)) (session.moved .inProgress (exchange token bytes))

/-- Every way through a round is listed. -/
theorem path_round {session after : Session P} {context : P.Context} {token : Option Token}
    {history : List (Happening P.collaborators)} {outcome : Except Error (Option Token × Bool)}
    (guards : session.handshake.guards = [Handshake.createdOnce])
    (running : session.handshake.state = .inProgress)
    (path : ((round context token).start session).Path history (outcome, after)) :
    Rounds session context token history outcome after := by
  unfold round at path
  obtain ⟨history, rfl, sending⟩ := path_note_bind path
  have kept : ∀ earlier error middle,
      ((ask (.step context token)).start session).Path earlier (.error error, middle) →
        middle.handshake.guards = [Handshake.createdOnce] := by
    intro earlier error middle part
    rw [(path_ask part).2]
    exact guards
  -- the step is guarded: it escapes, is reported, or ends, and then the question is asked
  rcases Procedure.path_bind sending with
    ⟨_, stepping, rfl⟩ | ⟨out, middle, earlier, later, rfl, stepping, stepped⟩
  · rcases path_guarded kept stepping with
      ⟨_, _, contradiction⟩ | ⟨error, part, escapes, same⟩ |
        ⟨error, middle, earlier, reply, part, authentication, rfl, same, rfl⟩
    · cases contradiction
    · cases same
      obtain ⟨rfl, rfl⟩ := path_ask part
      exact .stepEscaped _ escapes
    · cases same
      obtain ⟨rfl, rfl⟩ := path_ask part
      exact .stepReported _ authentication reply
  rcases path_guarded kept stepping with
    ⟨_, part, same⟩ | ⟨_, _, _, contradiction⟩ | ⟨_, _, _, _, _, _, _, contradiction, _⟩
  · cases same
    obtain ⟨rfl, rfl⟩ := path_ask part
    rcases path_ask_bind stepped with ⟨error, rfl, rfl, rfl⟩ | ⟨established, later, rfl, answered⟩
    · exact .questionRaised out error
    cases established with
    | true =>
      have accepted := judge_running (establishment token out) guards running rfl
      obtain ⟨later, rfl, advanced⟩ := path_advance_bind accepted answered
      rw [Procedure.start_get_bind] at advanced
      obtain ⟨later, rfl, noted⟩ := path_note_bind advanced
      obtain ⟨rfl, rfl, rfl⟩ := Procedure.path_pure noted
      exact .established out
    | false =>
      cases out with
      | none =>
        obtain ⟨later, rfl, failing⟩ := path_note_bind answered
        obtain ⟨reply, rfl, rfl, rfl⟩ := path_fail guards failing
        exact .noToken reply
      | some bytes =>
        have accepted := judge_running (exchange token bytes) guards running rfl
        obtain ⟨later, rfl, advanced⟩ := path_advance_bind accepted answered
        obtain ⟨rfl, rfl, rfl⟩ := Procedure.path_pure advanced
        exact .exchanged bytes
  · cases contradiction
  · cases contradiction

/-! ## Giving everything back -/

/-- What a session gives back when it is released, in this order. -/
def holdings (session : Session P) : List (Resource × Peers.Request P) :=
  session.credential.toList.map (fun credential => (.credential, .disposeCredential credential)) ++
  session.context.toList.map (fun context => (.securityContext, .disposeContext context)) ++
  (if session.loggedIn then session.identity.toList else []).map
    (fun identity => (.identity, .logout identity))

/-- Things are given back one after the other; an error is noted and goes no further. -/
inductive GivesBack (session : Session P) :
    List (Resource × Peers.Request P) → List (Happening P.collaborators) → Prop where
  | none : GivesBack session [] []
  | done {request : Peers.Request P} {rest : List (Resource × Peers.Request P)}
      {history : List (Happening P.collaborators)} (resource : Resource)
      (value : Peers.Reply request) (others : GivesBack session rest history) :
      GivesBack session ((resource, request) :: rest) (.asked request (.ok value) :: history)
  | failed {request : Peers.Request P} {rest : List (Resource × Peers.Request P)}
      {history : List (Happening P.collaborators)} (resource : Resource) (error : Error)
      (others : GivesBack session rest history) :
      GivesBack session ((resource, request) :: rest)
        (.asked request (.error error) :: session.noting (.releaseFailed resource error.message) ::
          history)

/-- Gives things back one after the other. -/
def releaseAll : List (Resource × Peers.Request P) → Work P Unit
  | [] => return ()
  | (resource, request) :: rest => do
    releaseOne resource request
    releaseAll rest

/-- One thing, if it is there, is given back before the others. -/
theorem releaseAll_optional {A : Type} (held : Option A) (resource : Resource)
    (request : A → Peers.Request P) (rest : List (Resource × Peers.Request P)) :
    releaseAll (held.toList.map (fun value => (resource, request value)) ++ rest) =
      match held with
      | some value => do
        releaseOne resource (request value)
        releaseAll rest
      | none => releaseAll rest := by
  cases held <;> rfl

/-- A release empties the session and gives back what it held. -/
theorem start_release (session : Session P) :
    release.start session = (releaseAll session.holdings).start session.emptied := by
  have last : ∀ identity, (releaseAll [(Resource.identity, Peers.Request.logout identity)] :
      Work P Unit) = releaseOne .identity (.logout identity) := by
    intro identity
    exact bind_pure_unit
  unfold release holdings
  rw [Procedure.start_get_bind, Procedure.start_set_bind, List.append_assoc, releaseAll_optional,
    releaseAll_optional]
  cases session.identity with
  | none =>
    cases session.loggedIn <;> cases session.credential <;> cases session.context <;> rfl
  | some identity =>
    cases session.loggedIn with
    | false => cases session.credential <;> cases session.context <;> rfl
    | true =>
      simp only [if_true, Option.toList_some, List.map_cons, List.map_nil, last]
      cases session.credential <;> cases session.context <;> rfl

/-- Giving one thing back never fails. -/
theorem path_releaseOne {resource : Resource} {request : Peers.Request P}
    {session after : Session P} {history : List (Happening P.collaborators)}
    {outcome : Except Error Unit}
    (path : ((releaseOne resource request).start session).Path history (outcome, after)) :
    outcome = .ok () ∧ after = session ∧ ∀ rest later, GivesBack session rest later →
      GivesBack session ((resource, request) :: rest) (history ++ later) := by
  unfold releaseOne at path
  rcases Procedure.path_bind path with
    ⟨_, first, _⟩ | ⟨reply, middle, earlier, later, rfl, first, rest⟩
  · obtain ⟨_, contradiction, _⟩ := Procedure.path_attempt first
    cases contradiction
  obtain ⟨_, attempted, first⟩ := Procedure.path_attempt first
  cases attempted
  obtain ⟨rfl, rfl⟩ := path_ask first
  cases reply with
  | ok value =>
    obtain ⟨rfl, rfl, rfl⟩ := Procedure.path_pure rest
    exact ⟨rfl, rfl, fun _ _ others => .done resource value others⟩
  | error error =>
    obtain ⟨rfl, rfl, rfl⟩ := path_note rest
    exact ⟨rfl, rfl, fun _ _ others => .failed resource error others⟩

/-- Giving things back never fails, whatever the peers do. -/
theorem path_releaseAll {requests : List (Resource × Peers.Request P)}
    {session after : Session P} {history : List (Happening P.collaborators)}
    {outcome : Except Error Unit}
    (path : ((releaseAll requests).start session).Path history (outcome, after)) :
    outcome = .ok () ∧ after = session ∧ GivesBack session requests history := by
  induction requests generalizing history with
  | nil =>
    obtain ⟨rfl, rfl, rfl⟩ := Procedure.path_pure path
    exact ⟨rfl, rfl, .none⟩
  | cons first rest ih =>
    rcases Procedure.path_bind path with
      ⟨error, failing, _⟩ | ⟨_, middle, earlier, later, rfl, giving, others⟩
    · cases (path_releaseOne failing).1
    · obtain ⟨_, rfl, extend⟩ := path_releaseOne giving
      obtain ⟨rfl, rfl, others⟩ := ih others
      exact ⟨rfl, rfl, extend rest later others⟩

/-- A release never fails; it gives back all that the session held, in order. -/
theorem path_release {session after : Session P} {history : List (Happening P.collaborators)}
    {outcome : Except Error Unit}
    (path : (release.start session).Path history (outcome, after)) :
    outcome = .ok () ∧ after = session.emptied ∧
      GivesBack session.emptied session.holdings history := by
  rw [start_release] at path
  exact path_releaseAll path

end SignOn.Session
