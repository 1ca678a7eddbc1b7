import SignOn.Proofs.Session.Resources

/-!
# The transcript of a session

What the handshake of a session records, what its context is given and what its calls return tell
the same story (`run_transcript`). As long as the session goes on, every call passes its token on
and returns what the context answers; the first answer of an established context, or the first
fatal error, is the end of it. Runs are followed from their first turn on: a session that refuses
rounds has no more to tell than the error of the first refusal (`Leads.history_of_refusal`), and a
session with a handshake in progress tells its story turn by turn (`Leads.tells`).
-/

set_option autoImplicit false

namespace SignOn.Session

open Dialogue (Happening)

variable {P : Peers}

/-! ## What turns show -/

/-- The token with which a round is called for. -/
def Call.token? : Call → Option (Option Token)
  | .generate token => some token
  | .release => none

/-- What a round returns, if it returns. -/
def Turn.result? (turn : Turn P) : Option (Option Token × Bool) :=
  match turn.outcome with
  | .ok result => result
  | .error _ => none

/-- The exchange behind a round that returns without an established context. -/
def Turn.exchange? (turn : Turn P) : Option Handshake.Event :=
  match turn.call, turn.outcome with
  | .generate token, .ok (some (out, false)) =>
    some (.tokenExchanged (tokenLength token) (out.map (fun bytes => (bytes.length : Int))))
  | _, _ => none

/-- The establishment behind a round that returns with an established context. -/
def Turn.establishment? (turn : Turn P) : Option Handshake.Event :=
  match turn.call, turn.outcome with
  | .generate token, .ok (some (out, true)) => some (establishment token out)
  | _, _ => none

/-- A round is called for while the handshake is not over. -/
def Turn.isOpen (turn : Turn P) : Bool :=
  turn.call.token?.isSome && !turn.before.handshake.state.isTerminal

/-- The tokens of the rounds before the first release and before the handshake is over. -/
def openTokens (turns : List (Turn P)) : List (Option Token) :=
  (turns.takeWhile Turn.isOpen).filterMap (fun turn => turn.call.token?)

/-- What the end of a handshake leaves in its history: the establishment of the context if a round
came to it, or else the first fatal error that was reported. -/
def ending (source : HandshakeState) (turns : List (Turn P)) : Handshake.History :=
  match (turns.filterMap Turn.establishment?).head? with
  | some event => [Handshake.transition .inProgress event .established]
  | none =>
    match ((happenings turns).filterMap report?).head? with
    | some (_, cause, _) =>
      [Handshake.transition source (.negotiationFailed cause.message) .failed]
    | none => []

/-- What the exchanges of some turns leave in the history of the handshake. -/
def exchanges (turns : List (Turn P)) : Handshake.History :=
  (turns.filterMap Turn.exchange?).map
    (fun event => Handshake.transition .inProgress event .inProgress)

/-- The history of the handshake as the calls and the peers of a run tell it: the creation of the
context, an exchange for every call that returned before the context was established, and the
end. -/
def transcript (spn : String) (turns : List (Turn P)) : Handshake.History :=
  if (happenings turns).filterMap context? = [] then exchanges turns ++ ending .notStarted turns
  else
    Handshake.transition .notStarted (.contextCreated spn) .inProgress ::
      (exchanges turns ++ ending .inProgress turns)

/-- The token of an open round comes before those of later ones. -/
theorem openTokens_of_open {turn : Turn P} {token : Option Token}
    (call : turn.call = .generate token)
    (going : turn.before.handshake.state.isTerminal = false) (turns : List (Turn P)) :
    openTokens (turn :: turns) = token :: openTokens turns := by
  have isOpen : turn.isOpen = true := by
    simp only [Turn.isOpen, call, going, Call.token?, Option.isSome_some, Bool.not_false,
      Bool.and_self]
  simp only [openTokens, List.takeWhile_cons, isOpen, if_true, List.filterMap_cons, call,
    Call.token?]

/-- From a turn on that calls for no round, or too late, no token counts. -/
theorem openTokens_of_closed {turn : Turn P} (closed : turn.isOpen = false)
    (turns : List (Turn P)) : openTokens (turn :: turns) = [] := by
  simp only [openTokens, List.takeWhile_cons, closed, Bool.false_eq_true, if_false,
    List.filterMap_nil]

/-- A turn that returns nothing leaves neither an exchange nor an establishment behind. -/
theorem Turn.nothing_of_unreturned {turn : Turn P} (unreturned : turn.result? = none) :
    turn.exchange? = none ∧ turn.establishment? = none := by
  obtain ⟨call, before, history, outcome, after⟩ := turn
  unfold Turn.result? at unreturned
  rcases outcome with error | _ | ⟨out, flag⟩
  · cases call <;> exact ⟨rfl, rfl⟩
  · cases call <;> exact ⟨rfl, rfl⟩
  · cases unreturned

section Unreturned

variable {turns : List (Turn P)} (unreturned : ∀ turn ∈ turns, turn.result? = none)

include unreturned

/-- Where no round returns there are no results. -/
theorem results_of_unreturned : turns.filterMap Turn.result? = [] := by
  rw [List.filterMap_eq_nil_iff]
  exact unreturned

/-- Where no round returns nothing is exchanged. -/
theorem exchanges_of_unreturned : exchanges turns = [] := by
  rw [exchanges, List.map_eq_nil_iff, List.filterMap_eq_nil_iff]
  exact fun turn member => (Turn.nothing_of_unreturned (unreturned turn member)).1

/-- Where no round returns no context is established. -/
theorem establishments_of_unreturned : turns.filterMap Turn.establishment? = [] := by
  rw [List.filterMap_eq_nil_iff]
  exact fun turn member => (Turn.nothing_of_unreturned (unreturned turn member)).2

/-- The end of a run in which no call returns is no round. -/
theorem rounds_ending_of_unreturned (source : HandshakeState) :
    Handshake.rounds (ending source turns) = 0 := by
  simp only [ending, establishments_of_unreturned unreturned, List.head?_nil]
  split <;> rfl

end Unreturned

/-! ## Runs in which rounds are refused -/

/-- A run in which nothing is exchanged, no context is obtained and no round returns. -/
structure Silent (turns : List (Turn P)) : Prop where
  within : ∀ happening ∈ happenings turns, isWithin [.disposal, .report] happening = true
  unreturned : ∀ turn ∈ turns, turn.result? = none

/-- Where rounds are refused, a run is silent. -/
theorem Leads.silent {session last : Session P} {turns : List (Turn P)}
    (leads : Leads session turns last) (refuses : session.refusal?.isSome = true) :
    Silent turns := by
  have each : ∀ turn ∈ turns, turn.result? = .none ∧
      ∀ happening ∈ turn.history, isWithin [.disposal, .report] happening = true := by
    intro turn member
    obtain ⟨listed, _⟩ := leads.isListed turn member
    obtain ⟨error, refusal⟩ :=
      Option.isSome_iff_exists.mp (leads.refuses refuses turn member)
    cases listed with
    | @generate before after history result token generates =>
      obtain ⟨reply, rfl, rfl, _⟩ := generates.of_refusal refusal
      exact ⟨rfl, isWithin_mono (reporting_isWithin before error reply)⟩
    | @release before history givesBack =>
      exact ⟨rfl, isWithin_mono (givesBack.isWithin before.part_holdings)⟩
  constructor
  · intro happening member
    obtain ⟨turn, found, member⟩ := List.mem_flatMap.mp member
    exact (each turn found).2 happening member
  · exact fun turn member => (each turn member).1

/-- A handshake that is over stays as it is. -/
theorem Leads.handshake_of_terminal {session last : Session P} {turns : List (Turn P)}
    (leads : Leads session turns last) (finished : session.handshake.state.isTerminal = true) :
    last.handshake = session.handshake := by
  have step : ∀ turn : Turn P, turn.IsListed → turn.before.IsSound →
      turn.before.handshake = session.handshake → turn.after.handshake = session.handshake := by
    intro turn listed _ same
    cases listed with
    | @generate before after history result token generates =>
      have finished : before.handshake.state.isTerminal = true := same ▸ finished
      obtain ⟨error, refusal⟩ := Option.isSome_iff_exists.mp (refuses_iff.mpr (.inr finished))
      obtain ⟨reply, _, _, rfl⟩ := generates.of_refusal refusal
      simp only [ended, finished, if_true]
      exact same
    | release givesBack => exact same
  exact (leads.keeps (fun session' => session'.handshake = session.handshake) step rfl).2

/-- A turn in which nothing is established or reported does not bring the end. -/
theorem ending_of_quiet {turn : Turn P} (unestablished : turn.establishment? = none)
    (unreported : turn.history.filterMap report? = []) (source : HandshakeState)
    (turns : List (Turn P)) : ending source (turn :: turns) = ending source turns := by
  simp only [ending, List.filterMap_cons, unestablished, happenings_cons, List.filterMap_append,
    unreported, List.nil_append]

/-- The establishment of the context is the end. -/
theorem ending_of_establishment {turn : Turn P} {event : Handshake.Event}
    (established : turn.establishment? = some event) (source : HandshakeState)
    (turns : List (Turn P)) :
    ending source (turn :: turns) = [Handshake.transition .inProgress event .established] := by
  simp only [ending, List.filterMap_cons, established, List.head?_cons]

/-- A fatal error is the end if no round returns any more. -/
theorem ending_of_report {turn : Turn P} {cause : Error} {reply : Except Error Unit}
    (unreturned : turn.result? = none)
    (reported : turn.history.filterMap report? = [(integratedAuthenticationFailed, cause, reply)])
    (source : HandshakeState) {turns : List (Turn P)} (silent : Silent turns) :
    ending source (turn :: turns) =
      [Handshake.transition source (.negotiationFailed cause.message) .failed] := by
  simp only [ending, List.filterMap_cons, (Turn.nothing_of_unreturned unreturned).2,
    establishments_of_unreturned silent.unreturned, List.head?_nil, happenings_cons,
    List.filterMap_append, reported, List.cons_append, List.head?_cons]

/-- A handshake that goes on fails when it is ended. -/
theorem ended_of_going {session : Session P} (going : session.handshake.state.isTerminal = false)
    (error : Error) :
    session.ended error = session.moved .failed (.negotiationFailed error.message) := by
  simp only [ended, going, Bool.false_eq_true, if_false]

/-- Where rounds are refused, a handshake that is not over ends with the first refusal. -/
theorem Leads.history_of_refusal {session last : Session P} {turns : List (Turn P)}
    (leads : Leads session turns last) (refuses : session.refusal?.isSome = true)
    (going : session.handshake.state.isTerminal = false) :
    last.handshake.history =
      session.handshake.history ++ ending session.handshake.state turns := by
  induction leads with
  | none session => simp [ending, happenings]
  | @turn turn turns last listed sound rest ih =>
    have silent := rest.silent (listed.refuses refuses)
    cases listed with
    | @generate before after history result token generates =>
      obtain ⟨error, refusal⟩ := Option.isSome_iff_exists.mp refuses
      obtain ⟨reply, rfl, rfl, rfl⟩ := generates.of_refusal refusal
      rw [rest.handshake_of_terminal (isTerminal_ended before error), ended_of_going going,
        ending_of_report rfl (report?_reporting before error reply) _ silent]
      rfl
    | @release before history givesBack =>
      have within := givesBack.isWithin before.part_holdings
      rw [ending_of_quiet rfl (unseen shows_report? within)]
      exact ih (refuses_iff.mpr (.inl rfl)) going

/-! ## Runs in which the handshake goes on -/

/-- What a run tells from a session with a handshake in progress on. -/
structure Tells (session last : Session P) (turns : List (Turn P)) : Prop where
  given : (happenings turns).filterMap given? = openTokens turns
  paired : ((happenings turns).filterMap output?).length =
    ((happenings turns).filterMap flag?).length
  returned : turns.filterMap Turn.result? <+:
    ((happenings turns).filterMap output?).zip ((happenings turns).filterMap flag?)
  steady : ∀ result ∈ (turns.filterMap Turn.result?).dropLast,
    result.2 = false ∧ result.1.isSome = true
  counted : last.rounds = session.rounds + (turns.filterMap Turn.result?).length
  recorded : last.handshake.history =
    session.handshake.history ++ (exchanges turns ++ ending .inProgress turns)

/-- When the handshake is over no token counts any more. -/
theorem Leads.openTokens_of_terminal {session last : Session P} {turns : List (Turn P)}
    (leads : Leads session turns last) (finished : session.handshake.state.isTerminal = true) :
    openTokens turns = [] := by
  cases leads with
  | none => rfl
  | turn listed sound rest =>
    apply openTokens_of_closed
    simp only [Turn.isOpen, finished, Bool.not_true, Bool.and_false]

/-- Nothing of an exchange is seen in a silent run. -/
theorem Silent.unseen {turns : List (Turn P)} (silent : Silent turns) {β : Type}
    {see : Happening P.collaborators → Option β} (shows : Shows see .exchange) :
    (happenings turns).filterMap see = [] :=
  Session.unseen shows silent.within

/-- The turn in which a round takes place, whose outcome ends the handshake, tells all of a run. -/
theorem Tells.close (turn : Turn P) {turns : List (Turn P)} {last : Session P}
    {token : Option Token} (leads : Leads turn.after turns last)
    (finished : turn.after.handshake.state.isTerminal = true) (call : turn.call = .generate token)
    (going : turn.before.handshake.state.isTerminal = false)
    (given : turn.history.filterMap given? = [token])
    (paired : (turn.history.filterMap output?).length = (turn.history.filterMap flag?).length)
    (returned : turn.result?.toList <+:
      (turn.history.filterMap output?).zip (turn.history.filterMap flag?))
    (unexchanged : turn.exchange? = none)
    (counted : turn.after.rounds = turn.before.rounds + turn.result?.toList.length)
    (recorded : turn.after.handshake.history =
      turn.before.handshake.history ++ ending .inProgress (turn :: turns)) :
    Tells turn.before last (turn :: turns) := by
  -- the handshake is over, so the later turns add nothing to what is told
  have silent : Silent turns := leads.silent (refuses_iff.mpr (.inr finished))
  have same : last.handshake = turn.after.handshake := leads.handshake_of_terminal finished
  have results : (turn :: turns).filterMap Turn.result? = turn.result?.toList := by
    rw [List.filterMap_cons, results_of_unreturned silent.unreturned]
    cases turn.result? <;> rfl
  constructor
  · rw [happenings_cons, List.filterMap_append, given, silent.unseen shows_given?,
      openTokens_of_open call going, leads.openTokens_of_terminal finished, List.append_nil]
  · rw [happenings_cons, List.filterMap_append, List.filterMap_append,
      silent.unseen shows_output?, silent.unseen shows_flag?, List.append_nil, List.append_nil]
    exact paired
  · rw [happenings_cons, List.filterMap_append, List.filterMap_append,
      silent.unseen shows_output?, silent.unseen shows_flag?, List.append_nil, List.append_nil,
      results]
    exact returned
  · have none : turn.result?.toList.dropLast = [] := by cases turn.result? <;> rfl
    rw [results, none]
    intro result member
    cases member
  · rw [results, ← counted]
    simp only [Session.rounds, same]
  · have rest : exchanges turns = [] := exchanges_of_unreturned silent.unreturned
    have none : exchanges (turn :: turns) = exchanges turns := by
      simp only [exchanges, List.filterMap_cons, unexchanged]
    rw [same, recorded, none, rest, List.nil_append]

/-- The number of rounds grows with the history. -/
theorem rounds_append (earlier later : Handshake.History) :
    Handshake.rounds (earlier ++ later) = Handshake.rounds earlier + Handshake.rounds later := by
  simp only [Handshake.rounds, List.filter_append, List.length_append]

/-- A round after which the handshake goes on tells its own part of a run. -/
theorem Tells.exchange (turn : Turn P) {turns : List (Turn P)} {last : Session P}
    {token : Option Token} {bytes : Token} (tells : Tells turn.after last turns)
    (call : turn.call = .generate token)
    (going : turn.before.handshake.state.isTerminal = false)
    (given : turn.history.filterMap given? = [token])
    (output : turn.history.filterMap output? = [some bytes])
    (flag : turn.history.filterMap flag? = [false])
    (unreported : turn.history.filterMap report? = [])
    (outcome : turn.outcome = .ok (some (some bytes, false)))
    (recorded : turn.after.handshake.history = turn.before.handshake.history ++
      [Handshake.transition .inProgress (Session.exchange token bytes) .inProgress]) :
    Tells turn.before last (turn :: turns) := by
  have result : turn.result? = some (some bytes, false) := by
    simp only [Turn.result?, outcome]
  have exchanged : turn.exchange? = some (Session.exchange token bytes) := by
    simp only [Turn.exchange?, call, outcome]
    rfl
  have unestablished : turn.establishment? = none := by
    simp only [Turn.establishment?, call, outcome]
  constructor
  · rw [happenings_cons, List.filterMap_append, given, openTokens_of_open call going,
      tells.given, List.singleton_append]
  · rw [happenings_cons, List.filterMap_append, List.filterMap_append, output, flag,
      List.length_append, List.length_append, tells.paired]
    rfl
  · rw [happenings_cons, List.filterMap_append, List.filterMap_append, output, flag,
      List.filterMap_cons_some result, List.singleton_append, List.singleton_append,
      List.zip_cons_cons, List.cons_prefix_cons]
    exact ⟨rfl, tells.returned⟩
  · rw [List.filterMap_cons_some result]
    intro other member
    cases results : turns.filterMap Turn.result? with
    | nil =>
      rw [results] at member
      cases member
    | cons first others =>
      rw [results, List.dropLast_cons_cons] at member
      rcases List.mem_cons.mp member with rfl | member
      · exact ⟨rfl, rfl⟩
      · exact tells.steady other (results ▸ member)
  · rw [tells.counted, List.filterMap_cons_some result, List.length_cons, Session.rounds,
      Session.rounds, recorded, rounds_append]
    have one : Handshake.rounds
        [Handshake.transition .inProgress (Session.exchange token bytes) .inProgress] = 1 := rfl
    omega
  · rw [tells.recorded, recorded, ending_of_quiet unestablished unreported]
    simp only [exchanges, List.filterMap_cons, exchanged, List.map_cons, List.append_assoc,
      List.cons_append, List.nil_append]

/-- A round that reports a fatal error tells all of a run. -/
theorem Tells.close_report {before last : Session P} {turns : List (Turn P)} {error : Error}
    {reply : Except Error Unit} (leads : Leads (before.ended error) turns last)
    (running : before.handshake.state = .inProgress) (token : Option Token)
    (first : List (Happening P.collaborators)) (given : first.filterMap given? = [token])
    (paired : (first.filterMap output?).length = (first.filterMap flag?).length)
    (unreported : first.filterMap report? = []) :
    Tells before last (⟨.generate token, before, first ++ before.reporting error reply,
      .error (leaving error reply), before.ended error⟩ :: turns) := by
  have within := reporting_isWithin before error reply
  have finished := isTerminal_ended before error
  have going : before.handshake.state.isTerminal = false := by
    rw [running]
    rfl
  refine Tells.close ⟨.generate token, before, _, _, before.ended error⟩ leads finished rfl going
    ?_ ?_ List.nil_prefix rfl ?_ ?_
  · rw [List.filterMap_append, given, Session.unseen shows_given? within,
      List.append_nil]
  · rw [List.filterMap_append, List.filterMap_append,
      Session.unseen shows_output? within,
      Session.unseen shows_flag? within, List.append_nil, List.append_nil]
    exact paired
  · rw [ended_of_going going]
    exact rounds_append before.handshake.history _
  · have reported : (first ++ before.reporting error reply).filterMap report? =
        [(integratedAuthenticationFailed, error, reply)] := by
      rw [List.filterMap_append, unreported, report?_reporting, List.nil_append]
    rw [ending_of_report rfl reported _ (leads.silent (refuses_iff.mpr (.inr finished))),
      ended_of_going going, ← running]
    rfl

/-- A silent run from a handshake in progress tells no more than its end. -/
theorem Tells.of_silent {session last : Session P} {turns : List (Turn P)} (silent : Silent turns)
    (closed : openTokens turns = [])
    (recorded : last.handshake.history =
      session.handshake.history ++ ending .inProgress turns) : Tells session last turns := by
  have results := results_of_unreturned silent.unreturned
  constructor
  · rw [silent.unseen shows_given?, closed]
  · rw [silent.unseen shows_output?, silent.unseen shows_flag?]
    rfl
  · rw [results]
    exact List.nil_prefix
  · rw [results]
    intro result member
    cases member
  · rw [results, Session.rounds, recorded, rounds_append,
      rounds_ending_of_unreturned silent.unreturned]
    rfl
  · rw [recorded, exchanges_of_unreturned silent.unreturned, List.nil_append]

/-- A run from a handshake in progress that begins with a release tells no more than its end. -/
theorem Tells.release {before last : Session P} {turns : List (Turn P)}
    {history : List (Happening P.collaborators)}
    (givesBack : GivesBack before.emptied before.holdings history)
    (leads : Leads before.emptied turns last) (running : before.handshake.state = .inProgress) :
    Tells before last (⟨.release, before, history, .ok none, before.emptied⟩ :: turns) := by
  have within := givesBack.isWithin before.part_holdings
  have refuses : before.emptied.refusal?.isSome = true := refuses_iff.mpr (.inl rfl)
  have going : before.emptied.handshake.state.isTerminal = false := by
    show before.handshake.state.isTerminal = false
    rw [running]
    rfl
  have rest := leads.silent refuses
  apply Tells.of_silent
  · constructor
    · rw [happenings_cons, List.forall_mem_append]
      exact ⟨isWithin_mono within, rest.within⟩
    · rw [List.forall_mem_cons]
      exact ⟨rfl, rest.unreturned⟩
  · exact openTokens_of_closed rfl turns
  · rw [leads.history_of_refusal refuses going,
      ending_of_quiet rfl (Session.unseen shows_report? within)]
    show before.handshake.history ++ ending before.handshake.state turns = _
    rw [running]

/-- From a handshake in progress on, every run with orderly peers tells what it is meant to. -/
theorem Leads.tells {session last : Session P} {turns : List (Turn P)}
    (leads : Leads session turns last) (kept : session.released = false)
    (running : session.handshake.state = .inProgress)
    (orderly : ∀ happening ∈ happenings turns, isOrderly happening = true) :
    Tells session last turns := by
  -- induction on the turns: each round adds its own part in front of what the rest tells
  induction leads with
  | none session =>
    refine Tells.of_silent ⟨?_, ?_⟩ rfl (List.append_nil _).symm
    · intro happening member
      cases member
    · intro turn member
      cases member
  | @turn turn turns last listed sound rest ih =>
    have going : turn.before.handshake.state.isTerminal = false := by
      rw [running]
      rfl
    rw [happenings_cons, List.forall_mem_append] at orderly
    obtain ⟨first, others⟩ := orderly
    cases listed with
    | release givesBack => exact Tells.release givesBack rest running
    | @generate before after history result token generates =>
      cases generates with
      | refused error refusal reply =>
        rw [refusal?_eq_none kept going] at refusal
        cases refusal
      | acquisitionEscaped _ untried | acquisitionReported _ untried | firstRound _ untried =>
        -- the handshake is in progress, so there is no first round to come
        rw [running] at untried
        cases untried
      | @laterRound _ context _ _ _ _ held rounds =>
        cases rounds with
        | stepEscaped error escapes =>
          -- orderly peers raise authentication errors only, which do not escape a step
          have authentication := isA_authentication_of_isOrderly rfl
            (first (.asked (.step context token) (.error error)) (by simp))
          rw [authentication] at escapes
          cases escapes
        | questionRaised out error =>
          have impossible := first (.asked (.isEstablished context) (.error error)) (by simp)
          cases impossible
        | stepReported error authentication reply =>
          exact Tells.close_report rest running token [_, _, _] rfl rfl rfl
        | noToken reply => exact Tells.close_report rest running token [_, _, _, _] rfl rfl rfl
        | established out =>
          refine Tells.close _ rest rfl rfl going rfl rfl ?_ rfl ?_ ?_
          · exact List.prefix_refl _
          · exact rounds_append before.handshake.history _
          · rw [ending_of_establishment rfl, ← running]
            rfl
        | exchanged bytes =>
          have tells := ih kept rfl others
          refine Tells.exchange _ tells rfl going rfl rfl rfl rfl rfl ?_
          rw [← running]
          rfl

/-! ## Runs from the start -/

/-- What a run tells that begins with a session that has just been opened. -/
structure TellsAll (spn : String) (last : Session P) (turns : List (Turn P)) : Prop where
  given : (happenings turns).filterMap given? =
    if (happenings turns).filterMap context? = [] then [] else openTokens turns
  paired : ((happenings turns).filterMap output?).length =
    ((happenings turns).filterMap flag?).length
  returned : turns.filterMap Turn.result? <+:
    ((happenings turns).filterMap output?).zip ((happenings turns).filterMap flag?)
  steady : ∀ result ∈ (turns.filterMap Turn.result?).dropLast,
    result.2 = false ∧ result.1.isSome = true
  counted : last.rounds = (turns.filterMap Turn.result?).length
  recorded : last.handshake.history = transcript spn turns

/-- A run in which no context is obtained and nothing is exchanged tells no more than its end. -/
theorem TellsAll.of_uncreated {spn : String} {last : Session P} {turns : List (Turn P)}
    (within : ∀ happening ∈ happenings turns,
      isWithin [.acquisition, .disposal, .report] happening = true)
    (uncreated : (happenings turns).filterMap context? = [])
    (unreturned : ∀ turn ∈ turns, turn.result? = none)
    (recorded : last.handshake.history = ending .notStarted turns) :
    TellsAll spn last turns := by
  have results := results_of_unreturned unreturned
  constructor
  · rw [unseen shows_given? within, if_pos uncreated]
  · rw [unseen shows_output? within, unseen shows_flag? within]
    rfl
  · rw [results]
    exact List.nil_prefix
  · rw [results]
    intro result member
    cases member
  · rw [results, Session.rounds, recorded, rounds_ending_of_unreturned unreturned]
    rfl
  · rw [recorded, transcript, if_pos uncreated, exchanges_of_unreturned unreturned,
      List.nil_append]

/-- The context that a session comes by is the only one obtained. -/
theorem Acquires.filterMap_context? {session after : Session P}
    {outcome : Except Error P.Context} {history : List (Happening P.collaborators)}
    (acquires : Acquires session history outcome after) :
    history.filterMap context? = outcome.toOption.toList := by
  cases acquires with
  | ambientRaised | loginRaised => rfl
  | credentialRaised identifies | contextRaised identifies | created identifies =>
    cases identifies <;> rfl

/-- The creation of the context comes before all that is told from then on. -/
theorem TellsAll.of_created {spn : String} {created last : Session P} {turn : Turn P}
    {turns : List (Turn P)} {token : Option Token} {later : List (Happening P.collaborators)}
    (tells : Tells created last (⟨turn.call, created, later, turn.outcome, turn.after⟩ :: turns))
    (history : created.handshake.history =
      [Handshake.transition .notStarted (.contextCreated spn) .inProgress])
    (running : created.handshake.state = .inProgress) (call : turn.call = .generate token)
    (going : turn.before.handshake.state.isTerminal = false)
    (first : List (Happening P.collaborators)) (split : turn.history = first ++ later)
    (within : ∀ happening ∈ first, isWithin [.acquisition] happening = true)
    (obtained : first.filterMap context? ≠ []) : TellsAll spn last (turn :: turns) := by
  -- all but the context is seen in the later part alone, as if the turn began behind the creation
  have same : ∀ {β : Type} {see : Happening P.collaborators → Option β} {only : Part},
      Shows see only → only ∉ [Part.acquisition] →
        (happenings (turn :: turns)).filterMap see =
          (happenings (⟨turn.call, created, later, turn.outcome, turn.after⟩ :: turns)).filterMap
            see := by
    intro β see only shows other
    rw [happenings_cons, happenings_cons, split, List.append_assoc, List.filterMap_append,
      unseen shows within other, List.nil_append]
  have created_going : created.handshake.state.isTerminal = false := by
    rw [running]
    rfl
  have contexts : (happenings (turn :: turns)).filterMap context? ≠ [] := by
    rw [happenings_cons, split, List.filterMap_append, List.filterMap_append]
    exact List.append_ne_nil_of_left_ne_nil (List.append_ne_nil_of_left_ne_nil obtained _) _
  have ending_eq : ending .inProgress (turn :: turns) =
      ending .inProgress (⟨turn.call, created, later, turn.outcome, turn.after⟩ :: turns) := by
    unfold ending
    rw [same shows_report? (by decide)]
    rfl
  have opening : openTokens (⟨turn.call, created, later, turn.outcome, turn.after⟩ :: turns) =
      token :: openTokens turns := by
    apply openTokens_of_open
    · exact call
    · exact created_going
  constructor
  · rw [same shows_given? (by decide), tells.given, if_neg contexts, opening,
      openTokens_of_open call going]
  · rw [same shows_output? (by decide), same shows_flag? (by decide)]
    exact tells.paired
  · rw [same shows_output? (by decide), same shows_flag? (by decide)]
    exact tells.returned
  · exact tells.steady
  · rw [tells.counted, Session.rounds, history]
    exact Nat.zero_add _
  · rw [tells.recorded, history, transcript, if_neg contexts, ending_eq]
    rfl

/-- A run that begins with a release tells no more than the first refusal. -/
theorem TellsAll.release {spn : String} {before last : Session P} {turns : List (Turn P)}
    {history : List (Happening P.collaborators)}
    (givesBack : GivesBack before.emptied before.holdings history)
    (leads : Leads before.emptied turns last) (untried : before.handshake.state = .notStarted)
    (unrecorded : before.handshake.history = []) :
    TellsAll spn last (⟨.release, before, history, .ok none, before.emptied⟩ :: turns) := by
  have within := givesBack.isWithin before.part_holdings
  have refuses : before.emptied.refusal?.isSome = true := refuses_iff.mpr (.inl rfl)
  have going : before.emptied.handshake.state.isTerminal = false := by
    show before.handshake.state.isTerminal = false
    rw [untried]
    rfl
  have silent := leads.silent refuses
  apply TellsAll.of_uncreated
  · rw [happenings_cons, List.forall_mem_append]
    exact ⟨isWithin_mono within, isWithin_mono silent.within⟩
  · rw [happenings_cons, List.filterMap_append, unseen shows_context? within,
      unseen shows_context? silent.within]
    rfl
  · rw [List.forall_mem_cons]
    exact ⟨rfl, silent.unreturned⟩
  · rw [leads.history_of_refusal refuses going,
      ending_of_quiet rfl (unseen shows_report? within)]
    show before.handshake.history ++ ending before.handshake.state turns = _
    rw [unrecorded, untried, List.nil_append]

/-- A run whose first round fails to come by a context tells no more than its error. -/
theorem TellsAll.acquisitionReported {spn : String} {before middle last : Session P}
    {turns : List (Turn P)} {history : List (Happening P.collaborators)} {error : Error}
    (acquires : Acquires before history (.error error) middle) (reply : Except Error Unit)
    (leads : Leads (middle.ended error) turns last)
    (untried : before.handshake.state = .notStarted) (unrecorded : before.handshake.history = [])
    (token : Option Token) :
    TellsAll spn last (⟨.generate token, before,
      history ++ middle.noting (.initializationFailed error.message) ::
        middle.reporting error reply,
      .error (leaving error reply), middle.ended error⟩ :: turns) := by
  have finished := isTerminal_ended middle error
  have silent := leads.silent (refuses_iff.mpr (.inr finished))
  have reporting := reporting_isWithin middle error reply
  have state_eq : middle.handshake.state = .notStarted := by
    rw [acquires.handshake_eq]
    exact untried
  have history_eq : middle.handshake.history = [] := by
    rw [acquires.handshake_eq]
    exact unrecorded
  apply TellsAll.of_uncreated
  · rw [happenings_cons, List.forall_mem_append, List.forall_mem_append, List.forall_mem_cons]
    exact ⟨⟨isWithin_mono acquires.isWithin, rfl, isWithin_mono reporting⟩,
      isWithin_mono silent.within⟩
  · rw [happenings_cons, List.filterMap_append, List.filterMap_append,
      acquires.filterMap_context?, List.filterMap_cons_none rfl,
      unseen shows_context? reporting,
      unseen shows_context? silent.within]
    rfl
  · rw [List.forall_mem_cons]
    exact ⟨rfl, silent.unreturned⟩
  · have reported : (history ++ middle.noting (.initializationFailed error.message) ::
        middle.reporting error reply).filterMap report? =
          [(integratedAuthenticationFailed, error, reply)] := by
      rw [List.filterMap_append, unseen shows_report? acquires.isWithin,
        List.filterMap_cons_none rfl, report?_reporting, List.nil_append]
    rw [ending_of_report rfl reported _ silent, leads.handshake_of_terminal finished,
      ended_of_going (by rw [state_eq]; rfl)]
    show middle.handshake.history ++ [Handshake.transition middle.handshake.state _ _] = _
    rw [history_eq, state_eq, List.nil_append]

/-- A run whose first round comes by a context tells its creation and goes on from a handshake in
progress. -/
theorem TellsAll.firstRound {before middle after last : Session P} {turns : List (Turn P)}
    {first later : List (Happening P.collaborators)} {context : P.Context} {token : Option Token}
    {outcome : Except Error (Option Token × Bool)} (sound : before.IsSound)
    (kept : before.released = false) (untried : before.handshake.state = .notStarted)
    (unrecorded : before.handshake.history = [])
    (acquires : Acquires before first (.ok context) middle)
    (rounds : Rounds (middle.moved .inProgress (.contextCreated middle.spn)) context token later
      outcome after)
    (leads : Leads after turns last)
    (orderly : ∀ happening ∈ later ++ happenings turns, isOrderly happening = true) :
    TellsAll before.spn last (⟨.generate token, before,
      first ++ middle.moving .inProgress (.contextCreated middle.spn) :: later, some <$> outcome,
      after⟩ :: turns) := by
  have released : (middle.moved .inProgress (.contextCreated middle.spn)).released = false :=
    acquires.released_eq.trans kept
  have held : (middle.moved .inProgress (.contextCreated middle.spn)).context = some context := by
    cases acquires
    rfl
  have spn_eq : middle.spn = before.spn := by
    cases acquires
    rfl
  have tells := (Leads.turn (.generate token (.laterRound released rfl held rounds))
    (acquires.isSound_moved sound kept _) leads).tells released rfl orderly
  refine TellsAll.of_created tells ?_ rfl rfl (by rw [untried]; rfl)
    (first ++ [middle.moving .inProgress (.contextCreated middle.spn)]) ?_ ?_ ?_
  · show middle.handshake.history ++ [Handshake.transition middle.handshake.state _ _] = _
    rw [acquires.handshake_eq, unrecorded, untried, spn_eq, List.nil_append]
  · rw [List.append_assoc, List.singleton_append]
  · rw [List.forall_mem_append, List.forall_mem_singleton]
    exact ⟨acquires.isWithin, rfl⟩
  · rw [List.filterMap_append, acquires.filterMap_context?]
    exact List.cons_ne_nil context _

/-- Every run with orderly peers that begins with a session that has just been opened tells what
it is meant to. -/
theorem Leads.tellsAll {host : String} {port : Int} {settings : Settings} {spn : String}
    {session last : Session P} {turns : List (Turn P)} (leads : Leads session turns last)
    (start : session = opened host port settings spn)
    (orderly : ∀ happening ∈ happenings turns, isOrderly happening = true) :
    TellsAll spn last turns := by
  have untried : session.handshake.state = .notStarted := by rw [start]; rfl
  have unrecorded : session.handshake.history = [] := by rw [start]; rfl
  have kept : session.released = false := by rw [start]; rfl
  have spn_eq : session.spn = spn := by rw [start]; rfl
  cases leads with
  | none =>
    apply TellsAll.of_uncreated
    · intro happening member
      cases member
    · rfl
    · intro turn member
      cases member
    · exact unrecorded
  | @turn turn turns _ listed sound rest =>
    rw [happenings_cons, List.forall_mem_append] at orderly
    obtain ⟨first, others⟩ := orderly
    -- the first turn decides: after it the handshake is over, in progress, or unstarted for good
    cases listed with
    | release givesBack => exact TellsAll.release givesBack rest untried unrecorded
    | @generate before after history result token generates =>
      cases generates with
      | refused error refusal reply =>
        rw [refusal?_eq_none kept (by rw [untried]; rfl)] at refusal
        cases refusal
      | acquisitionEscaped _ _ acquires escapes =>
        rw [acquires.isA_authentication first] at escapes
        cases escapes
      | acquisitionReported _ _ acquires _ reply =>
        exact TellsAll.acquisitionReported acquires reply rest untried unrecorded token
      | firstRound _ _ acquires rounds =>
        rw [← spn_eq]
        refine TellsAll.firstRound sound kept untried unrecorded acquires rounds rest ?_
        rw [List.forall_mem_append, List.forall_mem_cons] at first
        rw [List.forall_mem_append]
        exact ⟨first.2.2, others⟩
      | laterRound _ running =>
        rw [untried] at running
        cases running

/-- In every run with orderly peers the context is given the tokens of the open rounds, unless it
was never obtained, and every call that returns, returns what the context answered to its token.
All of these calls but the last have a token to send and leave the context unestablished, and none
returns after the context is established. The session counts the calls that return, and its
handshake records what the run tells. -/
theorem run_transcript {σ : Type} (answer : Dialogue.Answerer P.collaborators σ) (host : String)
    (port : Int) (settings : Settings) (spn : String) (calls : List Call) (state : σ)
    (orderly : ∀ happening ∈ happenings (turns answer (opened host port settings spn) calls state),
      isOrderly happening = true) :
    let run := turns answer (opened host port settings spn) calls state
    let last := afterTurns (opened host port settings spn) run
    ((happenings run).filterMap given? =
      if (happenings run).filterMap context? = [] then [] else openTokens run) ∧
    ((happenings run).filterMap output?).length = ((happenings run).filterMap flag?).length ∧
    run.filterMap Turn.result? <+:
      ((happenings run).filterMap output?).zip ((happenings run).filterMap flag?) ∧
    (∀ result ∈ (run.filterMap Turn.result?).dropLast,
      result.2 = false ∧ result.1.isSome = true) ∧
    (∀ earlier turn later out, run = earlier ++ turn :: later → turn.result? = some (out, true) →
      ∀ other ∈ later, other.result? = none) ∧
    last.rounds = (run.filterMap Turn.result?).length ∧
    last.handshake.history = transcript spn run := by
  intro run last
  have leads := leads_turns answer (isSound_opened host port settings spn) calls state
  have tells : TellsAll spn last run := leads.tellsAll rfl orderly
  refine ⟨tells.given, tells.paired, tells.returned, tells.steady, ?once, tells.counted,
    tells.recorded⟩
  intro earlier turn later out split result
  -- a result that ends the handshake and has another behind it would be among those that do not
  have steady := tells.steady
  rw [split, List.filterMap_append, List.filterMap_cons_some result] at steady
  cases others : later.filterMap Turn.result? with
  | nil => exact List.filterMap_eq_nil_iff.mp others
  | cons first rest =>
    have inner : (out, true) ∈
        (earlier.filterMap Turn.result? ++ (out, true) :: first :: rest).dropLast := by
      rw [List.dropLast_append_cons, List.dropLast_cons_cons]
      exact List.mem_append_right _ List.mem_cons_self
    rw [others] at steady
    have contradiction := (steady (out, true) inner).1
    cases contradiction

/-- With peers that count, the second round establishes the context, and the rounds that come after
the release leave no trace. -/
theorem counted_transcript :
    (∀ happening ∈ happenings countedTurns, isOrderly happening = true) ∧
      (happenings countedTurns).filterMap given? = [none, some [7, 7]] ∧
      countedTurns.filterMap Turn.result? <+: [(some [1], false), (some [1], true)] ∧
      (afterTurns (opened "db" 1433 {} "MSSQLSvc/db:1433") countedTurns).handshake.history =
        [Handshake.transition .notStarted (.contextCreated "MSSQLSvc/db:1433") .inProgress,
          Handshake.transition .inProgress (.tokenExchanged 0 (some 1)) .inProgress,
          Handshake.transition .inProgress (.contextEstablished 2 (some 1)) .established] := by
  have orderly : ∀ happening ∈ happenings countedTurns, isOrderly happening = true := by decide
  obtain ⟨given, _, returned, _, _, _, recorded⟩ :=
    run_transcript counting "db" 1433 {} "MSSQLSvc/db:1433" twoRounds 0 orderly
  exact ⟨orderly, given, returned, recorded⟩

end SignOn.Session
