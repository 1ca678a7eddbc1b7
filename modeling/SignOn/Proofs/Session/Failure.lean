import SignOn.Proofs.Session.Refusals

/-!
# Fatal failures

A round that is refused, or that comes upon a fatal error, returns no value. The error is reported
to the connection exactly once, what leaves the session is what the connection made of the report,
and the handshake is over. Every later round ends the same way, and asks nobody but the connection
(`fatal_failure`).
-/

set_option autoImplicit false

namespace SignOn.Session

open Dialogue (Happening)

variable {P : Peers} {α : Type}

/-! ## Coming upon a fatal error -/

/-- A round comes upon a fatal error: an operation raises an authentication error, or the context
gives no token although it is not established. -/
inductive Meets (history : List (Happening P.collaborators)) : Error → Prop where
  | fault {error : Error} (raised : error ∈ history.filterMap fault?) : Meets history error
  | noToken (output : none ∈ history.filterMap output?)
      (flag : false ∈ history.filterMap flag?) : Meets history .noToken

/-- An attempt ends with a fatal error: the error is reported once, what leaves the session is what
the connection makes of it, and the handshake is over. -/
def EndsWith (error : Error) (before : Session P) (history : List (Happening P.collaborators))
    (outcome : Except Error α) (after : Session P) : Prop :=
  ∃ reply, history.filterMap report? = [(integratedAuthenticationFailed, error, reply)] ∧
    outcome = .error (leaving error reply) ∧
    after.handshake.state =
      if before.handshake.state = .established then .established else .failed

/-- A fatal error fails the handshake unless it was established before. -/
theorem state_ended (session : Session P) (error : Error) :
    (session.ended error).handshake.state =
      if session.handshake.state = .established then .established else .failed := by
  unfold ended
  cases state : session.handshake.state with
  | notStarted | inProgress => rfl
  | established | failed => simp [HandshakeState.isTerminal, state]

/-- A fatal error that is reported ends the attempt. -/
theorem endsWith_reporting (session : Session P) (error : Error) (reply : Except Error Unit) :
    EndsWith error session (session.reporting error reply)
      (.error (leaving error reply) : Except Error α) (session.ended error) :=
  ⟨reply, report?_reporting session error reply, rfl, state_ended session error⟩

/-- What happens before the attempt ends may be anything but a report, as long as the handshake does
not become established. -/
theorem EndsWith.prepend {before session after : Session P} {error : Error}
    {history : List (Happening P.collaborators)} {outcome : Except Error α}
    (ends : EndsWith error session history outcome after)
    (first : List (Happening P.collaborators))
    (unreported : first.filterMap report? = [])
    (same : before.handshake.state = .established ↔ session.handshake.state = .established) :
    EndsWith error before (first ++ history) outcome after := by
  obtain ⟨reply, reported, left, finished⟩ := ends
  refine ⟨reply, ?_, left, ?_⟩
  · rw [List.filterMap_append, unreported, List.nil_append]
    exact reported
  · rw [finished]
    simp only [same]

/-- Where no token is given and the context says nothing first, a fatal error is raised there or met
in the rest. -/
theorem Meets.of_append {first later : List (Happening P.collaborators)} {error : Error}
    (meets : Meets (first ++ later) error) (noOutput : first.filterMap output? = [])
    (noFlag : first.filterMap flag? = []) :
    error ∈ first.filterMap fault? ∨ Meets later error := by
  cases meets with
  | fault raised =>
    rw [List.filterMap_append, List.mem_append] at raised
    exact raised.imp_right .fault
  | noToken output flag =>
    rw [List.filterMap_append, noOutput, List.nil_append] at output
    rw [List.filterMap_append, noFlag, List.nil_append] at flag
    exact .inr (.noToken output flag)

/-- A fatal error is not in an event that is logged, but behind it. -/
theorem Meets.of_logged {event : LogEvent} {later : List (Happening P.collaborators)}
    {error : Error} (meets : Meets (.logged event :: later) error) : Meets later error := by
  cases meets with
  | fault raised => exact .fault raised
  | noToken output flag => exact .noToken output flag

/-- Where nothing happens there is no fatal error. -/
theorem not_meets_nil (error : Error) : ¬ Meets ([] : List (Happening P.collaborators)) error := by
  intro meets
  cases meets with
  | fault raised => cases raised
  | noToken output => cases output

/-! ## Where fatal errors are met -/

/-- No operation fails while a fatal error is reported. -/
theorem fault?_reporting (session : Session P) (error : Error) (reply : Except Error Unit) :
    (session.reporting error reply).filterMap fault? = [] := by
  unfold reporting
  cases reply <;> split <;> rfl

/-- No token is given while a fatal error is reported. -/
theorem output?_reporting (session : Session P) (error : Error) (reply : Except Error Unit) :
    (session.reporting error reply).filterMap output? = [] :=
  unseen shows_output? (reporting_isWithin session error reply)

/-- While a fatal error is reported no other one is come upon. -/
theorem not_meets_reporting (session : Session P) (error other : Error)
    (reply : Except Error Unit) : ¬ Meets (session.reporting error reply) other := by
  intro meets
  cases meets with
  | fault raised =>
    rw [fault?_reporting] at raised
    cases raised
  | noToken output =>
    rw [output?_reporting] at output
    cases output

/-- The errors that an operation raises are fatal if they are authentication errors. -/
theorem fault?_error {request : Peers.Request P} (operation : isOperation request = true)
    (error : Error) : fault? (P := P) (.asked request (.error error)) =
      if error.isA .authentication then some error else none := by
  simp only [fault?, operation, Bool.true_and]

/-- Where a session fails to come by a context, the only fatal error is the one that it fails
with. -/
theorem Acquires.filterMap_fault? {session after : Session P} {error : Error}
    {history : List (Happening P.collaborators)}
    (acquires : Acquires session history (.error error) after) :
    history.filterMap fault? = if error.isA .authentication then [error] else [] := by
  obtain ⟨first, request, rfl, unraised, operation⟩ := acquires.raised
  rw [List.filterMap_append, unraised, List.nil_append, List.filterMap_cons,
    fault?_error operation]
  cases error.isA .authentication <;> rfl

/-- A fatal error that is met after all is raised in coming by a context or met later. -/
theorem Acquires.meets {session after : Session P} {outcome : Except Error P.Context}
    {history later : List (Happening P.collaborators)} {error : Error}
    (acquires : Acquires session history outcome after) (meets : Meets (history ++ later) error) :
    error ∈ history.filterMap fault? ∨ Meets later error :=
  meets.of_append (unseen shows_output? acquires.isWithin)
    (unseen shows_flag? acquires.isWithin)

/-- A session that comes by a context has met with no error on the way. -/
theorem Acquires.filterMap_fault?_ok {session after : Session P} {context : P.Context}
    {history : List (Happening P.collaborators)}
    (acquires : Acquires session history (.ok context) after) : history.filterMap fault? = [] := by
  cases acquires with
  | created identifies => cases identifies <;> rfl

/-- A round with a context that meets a fatal error ends with it. -/
theorem Rounds.endsWith {session after : Session P} {context : P.Context} {token : Option Token}
    {history : List (Happening P.collaborators)} {outcome : Except Error (Option Token × Bool)}
    {error : Error} (rounds : Rounds session context token history outcome after)
    (meets : Meets history error) : EndsWith error session history outcome after := by
  have operation : isOperation (.step context token) = true := rfl
  -- ways through a round without a fatal error contradict the one that is met
  cases rounds with
  | stepEscaped raised escapes =>
    cases meets with
    | fault found =>
      rw [List.filterMap_cons_none rfl, List.filterMap_cons, fault?_error operation,
        escapes] at found
      exact absurd found List.not_mem_nil
    | noToken output => exact absurd output List.not_mem_nil
  | stepReported raised authentication reply =>
    cases meets with
    | fault found =>
      rw [List.filterMap_cons_none rfl, List.filterMap_cons, fault?_error operation, authentication,
        if_pos rfl, List.filterMap_cons_none rfl, fault?_reporting] at found
      rw [List.mem_singleton.mp found]
      exact (endsWith_reporting session raised reply).prepend [_, _, _] rfl Iff.rfl
    | noToken output =>
      rw [List.filterMap_cons_none rfl, List.filterMap_cons_none rfl, List.filterMap_cons_none rfl,
        output?_reporting] at output
      exact absurd output List.not_mem_nil
  | questionRaised out raised =>
    cases meets with
    | fault found => exact absurd found List.not_mem_nil
    | noToken _ flag => exact absurd flag List.not_mem_nil
  | established out =>
    cases meets with
    | fault found => exact absurd found List.not_mem_nil
    | noToken _ flag => cases List.mem_singleton.mp flag
  | noToken reply =>
    cases meets with
    | fault found =>
      rw [List.filterMap_cons_none rfl, List.filterMap_cons_none rfl, List.filterMap_cons_none rfl,
        List.filterMap_cons_none rfl, fault?_reporting] at found
      exact absurd found List.not_mem_nil
    | noToken => exact (endsWith_reporting session .noToken reply).prepend [_, _, _, _] rfl Iff.rfl
  | exchanged bytes =>
    cases meets with
    | fault found => exact absurd found List.not_mem_nil
    | noToken output => cases List.mem_singleton.mp output

/-- A handshake round that is refused with an error, or that meets a fatal one, ends with it. -/
theorem Generates.endsWith {session after : Session P} {token : Option Token}
    {history : List (Happening P.collaborators)} {outcome : Except Error (Option Token × Bool)}
    {error : Error} (generates : Generates session token history outcome after)
    (fatal : session.refusal? = some error ∨ Meets history error) :
    EndsWith error session history outcome after := by
  rcases fatal with refusal | meets
  · obtain ⟨reply, rfl, rfl, rfl⟩ := generates.of_refusal refusal
    exact endsWith_reporting session error reply
  cases generates with
  | refused found refusal reply =>
    exact absurd meets (not_meets_reporting session found error reply)
  | acquisitionEscaped kept untried acquires escapes =>
    rw [← List.append_nil history] at meets
    rcases acquires.meets meets with raised | none
    · rw [acquires.filterMap_fault?, escapes] at raised
      cases raised
    · exact absurd none (not_meets_nil error)
  | @acquisitionReported earlier found middle kept untried acquires authentication reply =>
    have going : middle.handshake.state = .notStarted := by
      rw [acquires.handshake_eq]
      exact untried
    rcases acquires.meets meets with raised | later
    · rw [acquires.filterMap_fault?, authentication] at raised
      rw [List.mem_singleton.mp raised, List.append_cons]
      apply (endsWith_reporting middle found reply).prepend
      · rw [List.filterMap_append, unseen shows_report? acquires.isWithin]
        rfl
      · rw [untried, going]
    · exact absurd later.of_logged (not_meets_reporting middle found error reply)
  | @firstRound earlier later context middle after outcome kept untried acquires rounds =>
    rcases acquires.meets meets with raised | met
    · rw [acquires.filterMap_fault?_ok] at raised
      cases raised
    · rw [List.append_cons]
      apply (rounds.endsWith met.of_logged).prepend
      · rw [List.filterMap_append, unseen shows_report? acquires.isWithin]
        rfl
      · rw [untried]
        constructor <;> (intro contradiction; cases contradiction)
  | laterRound kept running held rounds => exact rounds.endsWith meets

/-! ## Calls -/

/-- A turn ends with a fatal error. -/
def Turn.EndsWith (turn : Turn P) (error : Error) : Prop :=
  Session.EndsWith error turn.before turn.history turn.outcome turn.after

/-- A listed round that is refused with an error, or that meets a fatal one, ends with it. -/
theorem Turn.IsListed.endsWith {turn : Turn P} (listed : turn.IsListed) {token : Option Token}
    (call : turn.call = .generate token) {error : Error}
    (fatal : turn.before.refusal? = some error ∨ Meets turn.history error) :
    turn.EndsWith error := by
  cases listed with
  | generate other generates =>
    obtain ⟨reply, reported, left, finished⟩ := generates.endsWith fatal
    exact ⟨reply, reported, by rw [left]; rfl, finished⟩
  | release => cases call

/-- After a turn that ended with a fatal error, rounds are refused. -/
theorem Turn.EndsWith.refuses {turn : Turn P} {error : Error} (ends : turn.EndsWith error) :
    turn.after.refusal?.isSome = true := by
  obtain ⟨reply, _, _, finished⟩ := ends
  rw [refuses_iff, finished]
  split <;> exact .inr rfl

/-- A refused round asks nobody but the connection. -/
theorem Turn.IsListed.isWithin_of_refuses {turn : Turn P} (listed : turn.IsListed)
    {token : Option Token} (call : turn.call = .generate token)
    (refuses : turn.before.refusal?.isSome = true) :
    ∀ happening ∈ turn.history, isWithin [.report] happening = true := by
  cases listed with
  | generate other generates => exact generates.isWithin_of_refuses refuses
  | release => cases call

/-- In any run against any peers, a round that is refused with an error, or that meets a fatal one,
ends with this error: it is reported once and nothing is returned. Every later round ends with a
state error in the same way, and asks nobody but the connection. -/
theorem fatal_failure {σ : Type} (answer : Dialogue.Answerer P.collaborators σ) (host : String)
    (port : Int) (settings : Settings) (spn : String) (calls : List Call) (state : σ)
    (earlier : List (Turn P)) (turn : Turn P) (later : List (Turn P)) {token : Option Token}
    {error : Error}
    (split : turns answer (opened host port settings spn) calls state = earlier ++ turn :: later)
    (call : turn.call = .generate token)
    (fatal : turn.before.refusal? = some error ∨ Meets turn.history error) :
    turn.EndsWith error ∧
    ∀ other ∈ later, ∀ next, other.call = .generate next →
      ∃ cause, cause.isA .state = true ∧ other.EndsWith cause ∧
        ∀ happening ∈ other.history, isWithin [.report] happening = true := by
  have leads := leads_turns answer (isSound_opened host port settings spn) calls state
  rw [split] at leads
  obtain ⟨middle, _, leads⟩ := leads.split
  cases leads with
  | turn listed sound rest =>
    have ends := listed.endsWith call fatal
    refine ⟨ends, ?_⟩
    intro other member next call
    obtain ⟨listed, _⟩ := rest.isListed other member
    have refuses := rest.refuses ends.refuses other member
    obtain ⟨cause, refusal⟩ := Option.isSome_iff_exists.mp refuses
    exact ⟨cause, isA_state_of_refusal refusal, listed.endsWith call (.inl refusal),
      listed.isWithin_of_refuses call refuses⟩

/-- Named peers whose contexts never give a token. -/
def speechless : Dialogue.Answerer namedPeers.collaborators Unit
  | .ambientIdentity, _ => (.ok (some "application"), ())
  | .login _, _ => (.ok "login", ())
  | .acquireCredential _ _, _ => (.ok (0 : Nat), ())
  | .createContext _ _ _, _ => (.ok (0 : Nat), ())
  | .step _ _, _ => (.ok none, ())
  | .isEstablished _, _ => (.ok false, ())
  | .disposeCredential _, _ | .disposeContext _, _ => (.ok (), ())
  | .logout _, _ | .report _ _, _ => (.ok (), ())

/-- A context that gives no token ends the attempt in the first round and keeps the second one from
being taken up. -/
theorem speechless_ends :
    ∃ first second, turns speechless (opened "db" 1433 {} "MSSQLSvc/db:1433")
        [.generate none, .generate (some [1])] () = [] ++ first :: [second] ∧
      Meets first.history .noToken ∧ first.EndsWith .noToken ∧
      ∃ cause, cause.isA .state = true ∧ second.EndsWith cause := by
  refine ⟨_, _, rfl, .noToken (by decide) (by decide), ?_⟩
  obtain ⟨ends, refused⟩ := fatal_failure speechless "db" 1433 {} "MSSQLSvc/db:1433"
    [.generate none, .generate (some [1])] () [] _ [_] rfl rfl
    (.inr (.noToken (by decide) (by decide)))
  obtain ⟨cause, isState, ends', _⟩ := refused _ (.head []) (some [1]) rfl
  exact ⟨ends, cause, isState, ends'⟩

end SignOn.Session
