import Mathlib.Data.List.Forall2
import SignOn.Proofs.Dialogue.Alike
import SignOn.Proofs.Session.Observed

/-!
# What a session gives away of its tokens

Of the tokens that pass through a session, nothing but their lengths is seen from outside. The view
`discreet` hides the bytes of the tokens that are passed on and of those that come back. Every part
of a session's work looks the same under it for tokens of the same length, and so does every run of
calls. Main statement: what the turns of a run disclose depends on the tokens through their lengths
only (`tokens_undisclosed`).
-/

set_option autoImplicit false

namespace SignOn.Session

open Dialogue (Happening)

variable {P : Peers}

/-! ## Tokens of which the bytes are hidden -/

/-- A reply of the peers, with no more of a token than its length. -/
inductive Answer (P : Peers) where
  | ambient (identity : Option P.Identity)
  | identity (identity : P.Identity)
  | credential (credential : P.Credential)
  | context (context : P.Context)
  | token (length : Option Nat)
  | established (flag : Bool)
  | done

/-- The request with the bytes of its token hidden. -/
def blanked : Peers.Request P → Peers.Request P
  | .step context token => .step context (some (List.replicate (tokenLength token) 0))
  | request => request

/-- The reply with the bytes of its token hidden. -/
def measured : (request : Peers.Request P) → Peers.Reply request → Answer P
  | .ambientIdentity, identity => .ambient identity
  | .login _, identity => .identity identity
  | .acquireCredential _ _, credential => .credential credential
  | .createContext _ _ _, context => .context context
  | .step _ _, out => .token (out.map List.length)
  | .isEstablished _, flag => .established flag
  | .disposeCredential _, _ | .disposeContext _, _ | .logout _, _ | .report _ _, _ => .done

/-- The view that hides the bytes of tokens. -/
def discreet (P : Peers) : View P.collaborators where
  Request := Peers.Request P
  Reply := Except Error (Answer P)
  request := blanked
  reply request reply := reply.map (measured request)

/-- The request passes a token on. -/
def isStep : Peers.Request P → Bool
  | .step _ _ => true
  | _ => false

/-- Of a reply without a token nothing is hidden. -/
theorem eq_of_measured_eq {request : Peers.Request P} (plain : isStep request = false)
    {reply other : Peers.Reply request} (same : measured request reply = measured request other) :
    reply = other := by
  cases request with
  | step context token => cases plain
  | ambientIdentity | login _ | acquireCredential _ _ | createContext _ _ _ | isEstablished _ =>
    injection same
  | disposeCredential _ | disposeContext _ | logout _ | report _ _ => rfl

/-! ## Work that looks the same -/

/-- Work looks the same as other work when only the bytes of tokens are hidden. -/
abbrev AlikeWork {α β : Type} (same : α → β → Prop) (work : Work P α) (other : Work P β) : Prop :=
  Procedure.Alike (discreet P) same work other

section Work

open Procedure

/-- Requests are made alike if they are seen as the same, and if replies of which the same is seen
belong together. -/
theorem alike_request {request request' : Peers.Request P}
    {same : Peers.Reply request → Peers.Reply request' → Prop}
    (requests : blanked request = blanked request')
    (replies : ∀ reply reply', measured request reply = measured request' reply' →
      same reply reply') :
    AlikeWork same (ask request) (ask request') := by
  have seen : (discreet P).request request = (discreet P).request request' := requests
  refine Procedure.alike_ask seen ?_
  intro reply reply' same_seen
  cases reply with
  | error error =>
    cases reply' with
    | error error' =>
      cases same_seen
      exact .error error
    | ok value' => cases same_seen
  | ok value =>
    cases reply' with
    | error error' => cases same_seen
    | ok value' => exact .ok (replies value value' (Except.ok.inj same_seen))

/-- A request that passes no token on looks like itself. -/
theorem alike_ask {request : Peers.Request P} (plain : isStep request = false) :
    AlikeWork Eq (ask request) (ask request) :=
  alike_request rfl fun _ _ => eq_of_measured_eq plain

/-- Tokens of one length are passed on alike. -/
theorem alike_step (context : P.Context) {token token' : Option Token}
    (lengths : tokenLength token = tokenLength token') :
    AlikeWork (fun out out' : Option Token => out.map List.length = out'.map List.length)
      (ask (.step context token)) (ask (.step context token')) := by
  have requests : blanked (.step context token) = blanked (.step context token') := by
    rw [blanked, blanked, lengths]
  exact alike_request requests fun out out' => Answer.token.inj

/-- An event that is logged looks like itself. -/
theorem alike_note (event : SessionEvent) :
    AlikeWork (P := P) Eq (note event) (note event) :=
  alike_get.bind_self fun _ => alike_log _

/-- An event that is given to the handshake looks like itself. -/
theorem alike_give (event : Handshake.Event) :
    AlikeWork (P := P) Eq (give event) (give event) := by
  unfold give
  refine alike_get.bind_self fun session => ?_
  refine (alike_log _).bind_self fun _ => ?_
  refine (alike_set _).bind_self fun _ => ?_
  split
  · exact alike_throw _ _
  · exact alike_pure rfl

/-- An attempt ends alike, whatever it was to give. -/
theorem alike_fail {α β : Type} (same : α → β → Prop) (error : Error) :
    AlikeWork (P := P) same (fail error) (fail error) := by
  unfold fail
  refine alike_get.bind_self fun session => ?_
  split
  · refine (alike_give _).bind_self fun _ => ?_
    exact (alike_ask rfl).bind_self fun _ => alike_throw _ _
  · exact (alike_ask rfl).bind_self fun _ => alike_throw _ _

/-- An event that the handshake is expected to accept looks like itself. -/
theorem alike_advance (event : Handshake.Event) :
    AlikeWork (P := P) Eq (advance event) (advance event) := by
  unfold advance
  refine alike_get.bind_self fun session => ?_
  refine (alike_give event).bind_self fun verdict => ?_
  split
  · exact alike_fail _ _
  · exact alike_pure rfl

/-- Parts that look alike still do so with fatal errors taken care of. -/
theorem alike_guarded {α β : Type} {same : α → β → Prop} (noted : String → SessionEvent)
    {part : Work P α} {part' : Work P β} (parts : AlikeWork same part part') :
    AlikeWork same (guarded noted part) (guarded noted part') := by
  unfold guarded
  refine parts.attempt.bind ?_
  intro outcome outcome' outcomes
  cases outcomes with
  | ok values => exact alike_pure values
  | error error =>
    by_cases authentication : error.isA .authentication
    · simp only [authentication, if_true]
      exact (alike_note _).bind_self fun _ => alike_fail _ _
    · simp only [authentication]
      exact alike_throw _ _

/-- To obtain an identity looks the same every time. -/
theorem alike_obtainIdentity : AlikeWork (P := P) Eq obtainIdentity obtainIdentity := by
  unfold obtainIdentity
  refine alike_get.bind_self fun session => ?_
  refine (alike_ask rfl).bind_self fun ambient => ?_
  cases ambient with
  | some identity => exact alike_pure rfl
  | none =>
    refine (alike_note _).bind_self fun _ => ?_
    refine (alike_ask rfl).bind_self fun identity => ?_
    exact (alike_modify _).bind_self fun _ => alike_pure rfl

/-- To come by a context looks the same every time. -/
theorem alike_obtainContext : AlikeWork (P := P) Eq obtainContext obtainContext := by
  unfold obtainContext
  refine alike_obtainIdentity.bind_self fun identity => ?_
  refine (alike_modify _).bind_self fun _ => ?_
  refine (alike_note _).bind_self fun _ => ?_
  refine (alike_ask rfl).bind_self fun credential => ?_
  refine (alike_modify _).bind_self fun _ => ?_
  refine alike_get.bind_self fun session => ?_
  refine (alike_note _).bind_self fun _ => ?_
  refine (alike_ask rfl).bind_self fun context => ?_
  exact (alike_modify _).bind_self fun _ => alike_pure rfl

/-- To set a context up looks the same every time. -/
theorem alike_setUp : AlikeWork (P := P) Eq setUp setUp := by
  unfold setUp
  refine (alike_guarded _ alike_obtainContext).bind_self fun context => ?_
  refine alike_get.bind_self fun session => ?_
  exact (alike_advance _).bind_self fun _ => alike_pure rfl

/-- What is seen of the result of a round. -/
def shown (result : Option Token × Bool) : Option Nat × Bool :=
  (result.1.map List.length, result.2)

/-- Rounds with tokens of one length give tokens of one length. -/
theorem alike_round (context : P.Context) {token token' : Option Token}
    (lengths : tokenLength token = tokenLength token') :
    AlikeWork (fun result result' => shown result = shown result')
      (round context token) (round context token') := by
  unfold round
  rw [lengths]
  refine (alike_note _).bind_self fun _ => ?_
  refine (alike_guarded _ (alike_step context lengths)).bind ?_
  intro out out' outs
  have outLengths : out.map (fun bytes => Int.ofNat bytes.length) =
      out'.map (fun bytes => Int.ofNat bytes.length) := by
    have mapped := congrArg (Option.map Int.ofNat) outs
    rwa [Option.map_map, Option.map_map] at mapped
  have none : out.isNone = out'.isNone := by
    simpa only [Option.isNone_map] using congrArg Option.isNone outs
  simp only [outLengths, none]
  refine (alike_ask rfl).bind_self fun established => ?_
  split
  · refine (alike_advance _).bind_self fun _ => ?_
    refine alike_get.bind_self fun session => ?_
    exact (alike_note _).bind_self fun _ => alike_pure (Prod.ext outs rfl)
  · split
    · exact (alike_note _).bind_self fun _ => alike_fail _ _
    · exact (alike_advance _).bind_self fun _ => alike_pure (Prod.ext outs rfl)

/-- Handshake rounds with tokens of one length look alike. -/
theorem alike_generate {token token' : Option Token}
    (lengths : tokenLength token = tokenLength token') :
    AlikeWork (P := P) (fun result result' => shown result = shown result')
      (generate token) (generate token') := by
  unfold generate
  refine alike_get.bind_self fun session => ?_
  split
  · exact alike_fail _ _
  split
  · exact alike_fail _ _
  cases session.context with
  | some context => exact (alike_pure rfl).bind_self fun context => alike_round context lengths
  | none => exact alike_setUp.bind_self fun context => alike_round context lengths

/-- To give one thing back looks the same every time. -/
theorem alike_releaseOne (resource : Resource) {request : Peers.Request P}
    (plain : isStep request = false) :
    AlikeWork Eq (releaseOne resource request) (releaseOne resource request) := by
  unfold releaseOne
  refine (alike_ask plain).attempt.bind ?_
  intro outcome outcome' outcomes
  cases outcomes with
  | ok _ => exact alike_pure rfl
  | error error => exact alike_note _

/-- A release looks the same every time. -/
theorem alike_release : AlikeWork (P := P) Eq release release := by
  unfold release
  refine alike_get.bind_self fun session => ?_
  refine (alike_set _).bind_self fun _ => ?_
  -- the three parts are joined from the last one back
  extract_lets identities contexts
  have identities_alike : AlikeWork (P := P) Eq (identities ()) (identities ()) := by
    unfold identities
    split
    · split
      · exact alike_releaseOne _ rfl
      · exact alike_pure rfl
    · exact alike_pure rfl
  have contexts_alike : AlikeWork (P := P) Eq (contexts ()) (contexts ()) := by
    unfold contexts
    split
    · exact (alike_releaseOne _ rfl).bind_self fun _ => identities_alike
    · exact identities_alike
  split
  · exact (alike_releaseOne _ rfl).bind_self fun _ => contexts_alike
  · exact contexts_alike

end Work

/-! ## Runs of calls -/

/-- Calls of one kind, with tokens of one length. -/
inductive SameCall : Call → Call → Prop where
  | generate {token token' : Option Token} (lengths : tokenLength token = tokenLength token') :
      SameCall (.generate token) (.generate token')
  | release : SameCall .release .release

/-- Calls of one kind with tokens of one length look alike. -/
theorem SameCall.alike {call call' : Call} (same : SameCall call call') :
    AlikeWork (P := P) (fun result result' => result.map shown = result'.map shown)
      call.work call'.work := by
  cases same with
  | generate lengths =>
    refine (alike_generate lengths).map ?_
    intro result result' results
    exact congrArg some results
  | release => exact alike_release.bind_self fun _ => Procedure.alike_pure rfl

/-- What is disclosed of a turn: what came of it, with no more of a token than its length, the state
of the handshake and the number of rounds after it, the records of all transitions so far, and the
events that were logged during it. -/
structure Disclosure where
  outcome : Except Error (Option (Option Nat × Bool))
  state : HandshakeState
  rounds : Nat
  trace : List (List (String × Value))
  logs : List LogEvent

/-- The event that is logged. -/
def logged? : Happening P.collaborators → Option LogEvent
  | .logged event => some event
  | .asked _ _ => none

/-- What is disclosed of a turn. -/
def Turn.disclosed (turn : Turn P) : Disclosure where
  outcome := turn.outcome.map (Option.map shown)
  state := turn.after.handshake.state
  rounds := turn.after.rounds
  trace := turn.after.handshake.history.map (Machine.Transition.record Handshake.rules)
  logs := turn.history.filterMap logged?

/-- All that is logged is seen. -/
theorem filterMap_logged? (history : List (Happening P.collaborators)) :
    history.filterMap logged? = (history.map (discreet P).seen).filterMap Sum.getLeft? := by
  rw [List.filterMap_map]
  congr 1
  funext happening
  cases happening <;> rfl

/-- Calls of one kind on one session disclose the same, as long as they are answered alike. -/
theorem SameCall.disclosed_eq {call call' : Call} (same : SameCall call call')
    {session after after' : Session P} {history history' : List (Happening P.collaborators)}
    {outcome outcome' : Except Error (Option (Option Token × Bool))}
    (path : (call.work.start session).Path history (outcome, after))
    (path' : (call'.work.start session).Path history' (outcome', after'))
    (answered : AnsweredAlike ((discreet P).calls history) ((discreet P).calls history')) :
    (discreet P).calls history = (discreet P).calls history' ∧ after = after' ∧
      Turn.disclosed ⟨call, session, history, outcome, after⟩ =
        Turn.disclosed ⟨call', session, history', outcome', after'⟩ := by
  obtain ⟨seen, outcomes, rfl⟩ := (same.alike session).seen_eq path path' answered
  have shownAlike : outcome.map (Option.map shown) = outcome'.map (Option.map shown) := by
    cases outcomes with
    | ok values => exact congrArg Except.ok values
    | error error => rfl
  refine ⟨congrArg (List.filterMap Sum.getRight?) seen, rfl, ?_⟩
  simp only [Turn.disclosed, shownAlike, filterMap_logged?, seen]

/-- The bytes of tokens are never disclosed: runs of calls that differ in the bytes of the tokens
only, passed on or given back, disclose the same. -/
theorem tokens_undisclosed {σ τ : Type} {answer : Dialogue.Answerer P.collaborators σ}
    {answer' : Dialogue.Answerer P.collaborators τ} {session : Session P} {calls calls' : List Call}
    {state : σ} {state' : τ} (same : List.Forall₂ SameCall calls calls')
    (answered : AnsweredAlike ((discreet P).calls (happenings (turns answer session calls state)))
      ((discreet P).calls (happenings (turns answer' session calls' state')))) :
    (turns answer session calls state).map Turn.disclosed =
      (turns answer' session calls' state').map Turn.disclosed := by
  induction same generalizing session state state' with
  | nil => rfl
  | @cons call call' calls calls' first rest ih =>
    simp only [turns, happenings_cons, View.calls_append] at answered
    obtain ⟨asked, left, disclosed⟩ := first.disclosed_eq
      (Dialogue.run_path answer (call.work.start session) state)
      (Dialogue.run_path answer' (call'.work.start session) state') answered.first
    rw [asked, ← left] at answered
    simp only [turns, List.map_cons]
    rw [disclosed, ← left, ih answered.rest]

/-- Peers that answer alike answer alike in runs of calls that differ in the bytes of tokens
only. -/
theorem answeredAlike_turns {σ : Type} {answer answer' : Dialogue.Answerer P.collaborators σ}
    (answers : Dialogue.AnswerAlike (discreet P) answer answer') {session : Session P}
    {calls calls' : List Call} (same : List.Forall₂ SameCall calls calls') (state : σ) :
    AnsweredAlike ((discreet P).calls (happenings (turns answer session calls state)))
      ((discreet P).calls (happenings (turns answer' session calls' state))) := by
  have calls_eq : (discreet P).calls (happenings (turns answer session calls state)) =
      (discreet P).calls (happenings (turns answer' session calls' state)) := by
    induction same generalizing session state with
    | nil => rfl
    | cons first rest ih =>
      obtain ⟨histories, states, _, sessions⟩ := (first.alike session).run_eq answers state
      simp only [turns, happenings_cons, View.calls_append]
      rw [← states, ← sessions, ih]
      congr 1
      exact congrArg (List.filterMap Sum.getRight?) histories
  rw [calls_eq]
  exact answeredAlike_self _

/-- Peers that count, and send a token of their own. -/
def sending (token : Token) : Dialogue.Answerer namedPeers.collaborators Nat
  | .step _ _, steps => (.ok (some token), steps + 1)
  | request, steps => counting request steps

/-- Tokens of one length make no difference that is seen. -/
theorem answerAlike_sending {token token' : Token} (lengths : token.length = token'.length) :
    Dialogue.AnswerAlike (discreet namedPeers) (sending token) (sending token') := by
  intro request request' steps same
  cases request with
  | step context given =>
    cases request' with
    | step context' given' =>
      refine ⟨?_, rfl⟩
      show Except.ok (Answer.token (some token.length)) = .ok (.token (some token'.length))
      rw [lengths]
    | _ => cases same
  | _ =>
    cases request' <;> cases same
    exact ⟨rfl, rfl⟩

/-- Two handshakes with different tokens of the same lengths. -/
theorem tokens_undisclosed_twoRounds :
    let session := opened "db" 1433 {} "MSSQLSvc/db:1433"
    let run := turns (sending [1, 2]) session [.generate none, .generate (some [7, 7])] 0
    let run' := turns (sending [3, 4]) session [.generate (some []), .generate (some [8, 9])] 0
    (happenings run).filterMap output? ≠ (happenings run').filterMap output? ∧
      run.map Turn.disclosed = run'.map Turn.disclosed := by
  have same : List.Forall₂ SameCall [.generate none, .generate (some [7, 7])]
      [.generate (some []), .generate (some [8, 9])] :=
    .cons (.generate rfl) (.cons (.generate rfl) .nil)
  exact ⟨by decide, tokens_undisclosed same (answeredAlike_turns (answerAlike_sending rfl) same 0)⟩

end SignOn.Session
