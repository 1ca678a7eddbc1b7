import SignOn.Proofs.Session.Transcript

/-!
# The handshake agrees with the context

Whatever errors the peers raise and however often rounds are tried again, the handshake of a session
knows whether there is a context (`handshake_agrees`): up to its release a session holds a context
exactly if the creation of one is in the history of its handshake, a context is created once at
most, and the handshake accepts every event that it is given. What a session keeps to is `Agrees`,
and every step of it is shown to keep it; between the reply that brings a context and the event that
records it nobody is asked, so calls find the two in agreement.
-/

set_option autoImplicit false

namespace SignOn.Session

open Dialogue (Happening)

variable {P : Peers}

/-! ## What the handshake answers and records -/

/-- How the handshake reacts to an event that it is given: it logs one of these events for each, and
nobody else logs them. -/
def reaction? : Happening P.collaborators → Option LogEvent
  | .logged (.stateTransition source target event) => some (.stateTransition source target event)
  | .logged (.invalidTransition state event) => some (.invalidTransition state event)
  | .logged (.invariantViolated guard source target) =>
    some (.invariantViolated guard source target)
  | _ => none

/-- The reaction to the event behind a transition, which was accepted. -/
def acceptance (transition : Machine.Transition HandshakeState Handshake.Kind) : LogEvent :=
  .stateTransition transition.source.name transition.target.name transition.kind.name

/-- The transitions of a history that record the creation of a context. -/
def creations (history : Handshake.History) : Handshake.History :=
  history.filter (fun transition => transition.kind = .contextCreated)

/-- A session, and all that happened so far, agree on whether there is a context: it was created
once at most, the history has its creation as often, up to the release the session holds what was
created, and a handshake that came to a context and did not fail has one. The handshake accepted
whatever it was given. -/
structure Agrees (session : Session P) (past : List (Happening P.collaborators)) : Prop where
  once : (past.filterMap context?).length ≤ 1
  created : (creations session.handshake.history).length = (past.filterMap context?).length
  held : session.released = false → session.context.toList = past.filterMap context?
  begun : session.handshake.state = .inProgress ∨ session.handshake.state = .established →
    past.filterMap context? ≠ []
  accepted : past.filterMap reaction? = session.handshake.history.map acceptance

/-- A session that has just been opened agrees with nothing having happened. -/
theorem agrees_opened (host : String) (port : Int) (settings : Settings) (spn : String) :
    (opened host port settings spn : Session P).Agrees [] where
  once := Nat.zero_le 1
  created := rfl
  held _ := rfl
  begun started := by rcases started with contradiction | contradiction <;> cases contradiction
  accepted := rfl

/-! ## Steps -/

/-- What brings no context and gives no event to the handshake keeps the agreement. -/
theorem Agrees.quiet {session : Session P} {past history : List (Happening P.collaborators)}
    (agrees : session.Agrees past) (noContext : history.filterMap context? = [])
    (noEvent : history.filterMap reaction? = []) : session.Agrees (past ++ history) := by
  have contexts : (past ++ history).filterMap context? = past.filterMap context? := by
    rw [List.filterMap_append, noContext, List.append_nil]
  constructor
  · rw [contexts]
    exact agrees.once
  · rw [contexts]
    exact agrees.created
  · rw [contexts]
    exact agrees.held
  · rw [contexts]
    exact agrees.begun
  · rw [List.filterMap_append, noEvent, List.append_nil]
    exact agrees.accepted

/-- An accepted event that creates no context keeps the agreement, as long as only a handshake in
progress goes on or becomes established. -/
theorem Agrees.moved {session : Session P} {past : List (Happening P.collaborators)}
    (agrees : session.Agrees past) (target : HandshakeState) (event : Handshake.Event)
    (uncreated : event.kind ≠ .contextCreated)
    (running : target = .inProgress ∨ target = .established →
      session.handshake.state = .inProgress) :
    (session.moved target event).Agrees (past ++ [session.moving target event]) := by
  have contexts : (past ++ [session.moving target event]).filterMap context? =
      past.filterMap context? := by
    rw [List.filterMap_append]
    exact List.append_nil _
  constructor
  · rw [contexts]
    exact agrees.once
  · rw [contexts, ← agrees.created]
    show (creations (session.handshake.history ++
      [Handshake.transition session.handshake.state event target])).length = _
    simp [creations, Handshake.transition, uncreated]
  · rw [contexts]
    exact agrees.held
  · rw [contexts]
    intro started
    exact agrees.begun (.inl (running started))
  · rw [List.filterMap_append, agrees.accepted]
    show _ = (session.handshake.history ++
      [Handshake.transition session.handshake.state event target]).map acceptance
    rw [List.map_append]
    rfl

/-- To report a fatal error keeps the agreement. -/
theorem Agrees.ended {session : Session P} {past : List (Happening P.collaborators)}
    (agrees : session.Agrees past) (error : Error) (reply : Except Error Unit) :
    (session.ended error).Agrees (past ++ session.reporting error reply) := by
  unfold Session.ended reporting
  split
  · exact agrees.quiet rfl rfl
  · have failed : (session.moved .failed (.negotiationFailed error.message)).Agrees
        (past ++ [session.moving .failed (.negotiationFailed error.message)]) := by
      apply agrees.moved
      · intro creation
        cases creation
      · intro started
        rcases started with contradiction | contradiction <;> cases contradiction
    rw [← List.append_assoc]
    exact failed.quiet rfl rfl

/-- A round with a context keeps the agreement. -/
theorem Rounds.agrees {session after : Session P} {context : P.Context} {token : Option Token}
    {past history : List (Happening P.collaborators)}
    {outcome : Except Error (Option Token × Bool)}
    (rounds : Rounds session context token history outcome after)
    (running : session.handshake.state = .inProgress) (agrees : session.Agrees past) :
    after.Agrees (past ++ history) := by
  -- what is asked in a round leaves the agreement as it is, and then the handshake may move
  cases rounds with
  | stepEscaped error => exact agrees.quiet rfl rfl
  | stepReported error authentication reply =>
    have raised : session.Agrees (past ++ [session.noting (.sendingToken (tokenLength token)),
        .asked (.step context token) (.error error),
        session.noting (.stepFailed error.message)]) := agrees.quiet rfl rfl
    have reported := raised.ended error reply
    rwa [List.append_assoc] at reported
  | questionRaised out error => exact agrees.quiet rfl rfl
  | established out =>
    have answered : session.Agrees (past ++ [session.noting (.sendingToken (tokenLength token)),
        .asked (.step context token) (.ok out), .asked (.isEstablished context) (.ok true)]) :=
      agrees.quiet rfl rfl
    have moved := answered.moved .established (establishment token out)
      (by intro creation; cases creation) (fun _ => running)
    have noContext : [session.noting (.established (session.moved .established
        (establishment token out)).rounds)].filterMap context? = [] := rfl
    have noted := moved.quiet noContext rfl
    rwa [List.append_assoc, List.append_assoc] at noted
  | noToken reply =>
    have answered : session.Agrees (past ++ [session.noting (.sendingToken (tokenLength token)),
        .asked (.step context token) (.ok none), .asked (.isEstablished context) (.ok false),
        session.noting .noToken]) := agrees.quiet rfl rfl
    have reported := answered.ended .noToken reply
    rwa [List.append_assoc] at reported
  | exchanged bytes =>
    have answered : session.Agrees (past ++ [session.noting (.sendingToken (tokenLength token)),
        .asked (.step context token) (.ok (some bytes)),
        .asked (.isEstablished context) (.ok false)]) := agrees.quiet rfl rfl
    have moved := answered.moved .inProgress (exchange token bytes)
      (by intro creation; cases creation) (fun _ => running)
    rwa [List.append_assoc] at moved

/-- In coming by a context the handshake is given no event. -/
theorem Acquires.filterMap_reaction? {session after : Session P}
    {history : List (Happening P.collaborators)} {outcome : Except Error P.Context}
    (acquires : Acquires session history outcome after) : history.filterMap reaction? = [] := by
  cases acquires with
  | ambientRaised | loginRaised => rfl
  | credentialRaised identifies | contextRaised identifies | created identifies =>
    cases identifies <;> rfl

/-- A session that fails to come by a context is left without one, and its handshake is left
alone. -/
theorem Acquires.agrees {session after : Session P} {error : Error}
    {past history : List (Happening P.collaborators)}
    (acquires : Acquires session history (.error error) after) (agrees : session.Agrees past) :
    after.Agrees (past ++ history) := by
  have context_eq : after.context = session.context := by cases acquires <;> rfl
  have extended : session.Agrees (past ++ history) :=
    agrees.quiet acquires.filterMap_context? acquires.filterMap_reaction?
  constructor
  · exact extended.once
  · rw [acquires.handshake_eq]
    exact extended.created
  · rw [context_eq, acquires.released_eq]
    exact extended.held
  · rw [acquires.handshake_eq]
    exact extended.begun
  · rw [acquires.handshake_eq]
    exact extended.accepted

/-- A handshake that has not started has no context created so far. -/
theorem Agrees.uncreated {session : Session P} {past : List (Happening P.collaborators)}
    (agrees : session.Agrees past) (sound : session.IsSound)
    (untried : session.handshake.state = .notStarted) : past.filterMap context? = [] := by
  have created := agrees.created
  rw [(sound.untried untried).1] at created
  exact List.length_eq_zero_iff.mp created.symm

/-- A session that comes by a context agrees with its handshake once the creation is recorded. -/
theorem Acquires.agrees_moved {session after : Session P} {context : P.Context}
    {past history : List (Happening P.collaborators)}
    (acquires : Acquires session history (.ok context) after) (sound : session.IsSound)
    (untried : session.handshake.state = .notStarted) (agrees : session.Agrees past) :
    (after.moved .inProgress (.contextCreated after.spn)).Agrees
      (past ++ (history ++ [after.moving .inProgress (.contextCreated after.spn)])) := by
  have obtained : (past ++ (history ++
      [after.moving .inProgress (.contextCreated after.spn)])).filterMap context? = [context] := by
    rw [List.filterMap_append, List.filterMap_append, agrees.uncreated sound untried,
      acquires.filterMap_context?]
    rfl
  have unrecorded : after.handshake.history = [] := by
    rw [acquires.handshake_eq]
    exact (sound.untried untried).1
  have recorded : (after.moved .inProgress (.contextCreated after.spn)).handshake.history =
      [Handshake.transition after.handshake.state (.contextCreated after.spn) .inProgress] := by
    show after.handshake.history ++ _ = _
    rw [unrecorded, List.nil_append]
  constructor
  · rw [obtained]
    exact Nat.le_refl 1
  · rw [recorded, obtained]
    rfl
  · intro _
    rw [obtained]
    cases acquires
    rfl
  · intro _
    rw [obtained]
    exact List.cons_ne_nil _ _
  · have silent : past.filterMap reaction? = [] := by
      rw [agrees.accepted, (sound.untried untried).1, List.map_nil]
    rw [recorded, List.filterMap_append, List.filterMap_append, silent,
      acquires.filterMap_reaction?]
    rfl

/-! ## Calls -/

/-- A round keeps session and history in agreement. -/
theorem Generates.agrees {session after : Session P} {token : Option Token}
    {past history : List (Happening P.collaborators)}
    {outcome : Except Error (Option Token × Bool)}
    (generates : Generates session token history outcome after) (sound : session.IsSound)
    (agrees : session.Agrees past) : after.Agrees (past ++ history) := by
  cases generates with
  | refused error refusal reply => exact agrees.ended error reply
  | acquisitionEscaped kept untried acquires => exact acquires.agrees agrees
  | @acquisitionReported first error middle kept untried acquires authentication reply =>
    have noted : middle.Agrees (past ++ first ++
        [middle.noting (.initializationFailed error.message)]) :=
      (acquires.agrees agrees).quiet rfl rfl
    have reported := noted.ended error reply
    rwa [List.append_assoc, List.append_assoc] at reported
  | firstRound kept untried acquires rounds =>
    have exchanged := rounds.agrees rfl (acquires.agrees_moved sound untried agrees)
    rwa [List.append_assoc, List.append_assoc] at exchanged
  | laterRound kept running held rounds => exact rounds.agrees running agrees

/-- Giving things back is no affair of the handshake. -/
theorem GivesBack.filterMap_reaction? {session : Session P}
    {requests : List (Resource × Peers.Request P)} {history : List (Happening P.collaborators)}
    (givesBack : GivesBack session requests history) : history.filterMap reaction? = [] := by
  induction givesBack with
  | none => rfl
  | done resource value others ih => exact ih
  | failed resource error others ih => exact ih

/-- A release keeps the agreement: the history remembers the context that was given back. -/
theorem GivesBack.agrees {session : Session P} {past history : List (Happening P.collaborators)}
    (givesBack : GivesBack session.emptied session.holdings history)
    (agrees : session.Agrees past) : session.emptied.Agrees (past ++ history) := by
  have noContext : history.filterMap context? = [] :=
    unseen shows_context? (givesBack.isWithin session.part_holdings)
  have extended := agrees.quiet noContext givesBack.filterMap_reaction?
  exact {
    once := extended.once
    created := extended.created
    held contradiction := by cases contradiction
    begun := extended.begun
    accepted := extended.accepted }

/-- By induction over the turns, they agree after any number of them. -/
theorem Leads.agrees {session last : Session P} {turns : List (Turn P)}
    (leads : Leads session turns last) {past : List (Happening P.collaborators)}
    (agrees : session.Agrees past) : last.Agrees (past ++ happenings turns) := by
  have all : ∀ happening ∈ happenings turns, True := fun _ _ => trivial
  refine leads.invariant ?_ all agrees
  intro past turn listed sound _ agrees
  cases listed with
  | generate token generates => exact generates.agrees sound agrees
  | release givesBack => exact givesBack.agrees agrees

/-! ## Whole runs -/

/-- After any calls, whatever the peers do and whichever errors they raise: a session that was not
released holds a context exactly if the history of its handshake has the creation of one, holds none
before the handshake started, and holds one while it is in progress and once it is established. In
the whole run a context is created once at most, and so is its creation recorded. All events that
the handshake was given are in its history, as it accepted each of them. -/
theorem handshake_agrees {σ : Type} (answer : Dialogue.Answerer P.collaborators σ) (host : String)
    (port : Int) (settings : Settings) (spn : String) (calls : List Call) (state : σ) :
    let run := turns answer (opened host port settings spn) calls state
    let last := afterTurns (opened host port settings spn) run
    (last.released = false →
      last.context = ((happenings run).filterMap context?).head? ∧
      (last.context.isSome = true ↔
        ∃ transition ∈ last.handshake.history, transition.kind = .contextCreated) ∧
      (last.handshake.state = .notStarted → last.context = none) ∧
      (last.handshake.state = .inProgress ∨ last.handshake.state = .established →
        last.context.isSome = true)) ∧
    ((happenings run).filterMap context?).length ≤ 1 ∧
    (creations last.handshake.history).length ≤ 1 ∧
    (happenings run).filterMap reaction? = last.handshake.history.map acceptance := by
  intro run last
  have leads := leads_turns answer (isSound_opened host port settings spn) calls state
  -- the agreement is the invariant of the turns, and all that is claimed is read off it
  have agrees : last.Agrees (happenings run) := leads.agrees (agrees_opened host port settings spn)
  refine ⟨?agreement, agrees.once, ?recordedOnce, agrees.accepted⟩
  case recordedOnce =>
    rw [agrees.created]
    exact agrees.once
  case agreement =>
    intro kept
    have held := agrees.held kept
    refine ⟨?same, ?recorded, ?untried, ?begun⟩
    case same =>
      rw [← held]
      cases last.context <;> rfl
    case recorded =>
      have creation : (∃ transition ∈ last.handshake.history, transition.kind = .contextCreated) ↔
          creations last.handshake.history ≠ [] := by
        simp [creations, List.filter_eq_nil_iff]
      rw [creation, ← List.length_pos_iff, agrees.created, ← held]
      cases last.context <;> simp
    case untried =>
      intro untried
      have sound : last.IsSound :=
        (leads.keeps IsSound (fun _ listed sound _ => listed.isSound sound)
          (isSound_opened host port settings spn)).2
      exact (sound.untried untried).2
    case begun =>
      intro begun
      have created := agrees.begun begun
      rw [← held] at created
      cases context : last.context with
      | none =>
        rw [context] at created
        exact absurd rfl created
      | some found => rfl

end SignOn.Session
