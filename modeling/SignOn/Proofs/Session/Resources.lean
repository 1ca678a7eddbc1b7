import SignOn.Proofs.Session.Refusals

/-!
# What a session obtains and gives back

With orderly peers a session comes by an identity, a credential and a context at most once. A
release gives back what was obtained, each thing once and in order, whatever the peers make of it;
after it nothing is obtained or given back any more (`gives_back_once`). The accounts of a session
(`Accounts`) tie what it holds to what happened so far.
-/

set_option autoImplicit false

namespace SignOn.Session

open Dialogue (Happening)

variable {P : Peers}

/-! ## Accounts -/

/-- What is true of a session and all that happened so far: no stage was tried twice, none at all
before the handshake started; up to its release the session holds what it obtained, and by then it
has given it back. -/
structure Accounts (session : Session P) (past : List (Happening P.collaborators)) : Prop where
  untried : session.handshake.state = .notStarted →
    past.filterMap stage? = [] ∧ session.credential = none ∧ session.loggedIn = false
  once : ∀ stage, (past.filterMap stage?).count stage ≤ 1
  held : session.released = false →
    past.filterMap disposal? = [] ∧ session.holdings.map Prod.snd = settlement past
  settled : session.released = true → past.filterMap disposal? = settlement past

/-- A session that has just been opened holds nothing, and nothing has happened. -/
theorem accounts_opened (host : String) (port : Int) (settings : Settings) (spn : String) :
    (opened host port settings spn : Session P).Accounts [] where
  untried _ := ⟨rfl, rfl, rfl⟩
  once stage := Nat.zero_le 1
  held _ := ⟨rfl, rfl⟩
  settled contradiction := by cases contradiction

/-- Exchanges and reports leave the accounts as they are, whatever becomes of a handshake that has
started. -/
theorem Accounts.aside {session after : Session P}
    {past history : List (Happening P.collaborators)} (accounts : session.Accounts past)
    (within : ∀ happening ∈ history, isWithin [.exchange, .report] happening = true)
    (same : after = { session with handshake := after.handshake })
    (started : after.handshake.state = .notStarted → session.handshake.state = .notStarted) :
    after.Accounts (past ++ history) := by
  have noStage : history.filterMap stage? = [] := unseen shows_stage? within
  have noDisposal : history.filterMap disposal? = [] := unseen shows_disposal? within
  have released_eq : after.released = session.released := by rw [same]
  have holdings_eq : after.holdings = session.holdings := by rw [same]; rfl
  constructor
  · intro untried
    obtain ⟨none, noCredential, noLogin⟩ := accounts.untried (started untried)
    rw [List.filterMap_append, none, noStage, same]
    exact ⟨rfl, noCredential, noLogin⟩
  · intro stage
    rw [List.filterMap_append, noStage, List.append_nil]
    exact accounts.once stage
  · intro kept
    rw [released_eq] at kept
    rw [List.filterMap_append, noDisposal, List.append_nil, holdings_eq, settlement_append noStage]
    exact accounts.held kept
  · intro released
    rw [released_eq] at released
    rw [List.filterMap_append, noDisposal, List.append_nil, settlement_append noStage]
    exact accounts.settled released

/-! ## Coming by a context -/

/-- In coming by a context no stage is tried twice. -/
theorem Acquires.stages_once {session after : Session P}
    {history : List (Happening P.collaborators)} {outcome : Except Error P.Context}
    (acquires : Acquires session history outcome after) :
    ∀ stage, (history.filterMap stage?).count stage ≤ 1 := by
  intro stage
  cases acquires with
  | ambientRaised | loginRaised =>
    simp only [List.filterMap_cons, List.filterMap_nil, stage?, noting]
    cases stage <;> decide
  | credentialRaised identifies | contextRaised identifies | created identifies =>
    cases identifies <;>
      simp only [List.filterMap_append, List.filterMap_cons, List.filterMap_nil, stage?, noting] <;>
      cases stage <;> decide

/-- A session that held nothing holds what it obtained in coming by a context. -/
theorem Acquires.holdings_eq {session after : Session P}
    {history : List (Happening P.collaborators)} {outcome : Except Error P.Context}
    (acquires : Acquires session history outcome after) (noCredential : session.credential = none)
    (noContext : session.context = none) (noLogin : session.loggedIn = false) :
    after.holdings.map Prod.snd = settlement history := by
  have nothing : session.holdings = [] := by
    simp only [holdings, noCredential, noContext, noLogin, Option.toList_none, List.map_nil,
      List.append_nil, Bool.false_eq_true, if_false]
  cases acquires with
  | ambientRaised | loginRaised =>
    rw [nothing]
    rfl
  | credentialRaised identifies =>
    unfold holdings
    simp only [identified, noCredential, noContext, noLogin]
    cases identifies <;> rfl
  | contextRaised identifies =>
    unfold holdings
    simp only [identified, noContext, noLogin]
    cases identifies <;> rfl
  | created identifies =>
    unfold holdings
    simp only [identified, noLogin]
    cases identifies <;> rfl

/-- The accounts of a session that had obtained nothing are kept in coming by a context, once its
handshake moves. -/
theorem Accounts.acquires {session middle after : Session P}
    {past history : List (Happening P.collaborators)} {outcome : Except Error P.Context}
    (accounts : session.Accounts past) (sound : session.IsSound)
    (kept : session.released = false) (untried : session.handshake.state = .notStarted)
    (acquires : Acquires session history outcome middle)
    (same : after = { middle with handshake := after.handshake })
    (started : after.handshake.state ≠ .notStarted) : after.Accounts (past ++ history) := by
  obtain ⟨none, noCredential, noLogin⟩ := accounts.untried untried
  have noDisposal : history.filterMap disposal? = [] :=
    unseen shows_disposal? acquires.isWithin
  have released_eq : after.released = false := by
    rw [same, ← kept]
    exact acquires.released_eq
  constructor
  · exact fun untried => absurd untried started
  · intro stage
    rw [List.filterMap_append, none, List.nil_append]
    exact acquires.stages_once stage
  · intro _
    have holdings_eq : after.holdings = middle.holdings := by rw [same]; rfl
    rw [List.filterMap_append, (accounts.held kept).1, noDisposal, holdings_eq,
      settlement_append_of_untried none]
    exact ⟨rfl, acquires.holdings_eq noCredential (sound.untried untried).2 noLogin⟩
  · intro released
    rw [released_eq] at released
    cases released

/-! ## Calls -/

/-- A session that reported a fatal error has started its handshake, whether it was over or not. -/
theorem ended_state_ne (session : Session P) (error : Error) :
    (session.ended error).handshake.state ≠ .notStarted := by
  intro untried
  have finished := isTerminal_ended session error
  rw [untried] at finished
  cases finished

/-- A round that goes on from a handshake in progress does not take it back to its start. -/
theorem Rounds.state_ne {session after : Session P} {context : P.Context} {token : Option Token}
    {history : List (Happening P.collaborators)} {outcome : Except Error (Option Token × Bool)}
    (rounds : Rounds session context token history outcome after)
    (running : session.handshake.state = .inProgress) :
    after.handshake.state ≠ .notStarted := by
  intro untried
  cases rounds with
  | stepEscaped | questionRaised =>
    rw [running] at untried
    cases untried
  | stepReported error | noToken => exact ended_state_ne session _ untried
  | established | exchanged => cases untried

/-- With orderly peers a handshake round takes the handshake on from its start. -/
theorem Generates.state_ne {session after : Session P} {token : Option Token}
    {history : List (Happening P.collaborators)} {outcome : Except Error (Option Token × Bool)}
    (generates : Generates session token history outcome after)
    (orderly : ∀ happening ∈ history, isOrderly happening = true) :
    after.handshake.state ≠ .notStarted := by
  cases generates with
  | refused error => exact ended_state_ne session error
  | acquisitionEscaped kept untried acquires escapes =>
    rw [acquires.isA_authentication orderly] at escapes
    cases escapes
  | acquisitionReported => exact ended_state_ne _ _
  | firstRound kept untried acquires rounds => exact rounds.state_ne rfl
  | laterRound kept running held rounds => exact rounds.state_ne running

/-- A handshake round has two parts: the session may come by a context, and then it exchanges tokens
or reports a fatal error, which changes nothing but the handshake. -/
theorem Generates.parts {session after : Session P} {token : Option Token}
    {history : List (Happening P.collaborators)} {outcome : Except Error (Option Token × Bool)}
    (generates : Generates session token history outcome after) :
    ∃ first later middle, history = first ++ later ∧
      (∀ happening ∈ later, isWithin [.exchange, .report] happening = true) ∧
      after = { middle with handshake := after.handshake } ∧
      ((first = [] ∧ middle = session) ∨ ∃ acquired, session.released = false ∧
        session.handshake.state = .notStarted ∧ Acquires session first acquired middle) := by
  cases generates with
  | refused error refusal reply =>
    exact ⟨[], _, session, rfl, isWithin_mono (reporting_isWithin session error reply),
      ended_eq session error, .inl ⟨rfl, rfl⟩⟩
  | acquisitionEscaped kept untried acquires =>
    refine ⟨history, [], after, (List.append_nil history).symm, ?_, rfl,
      .inr ⟨_, kept, untried, acquires⟩⟩
    intro happening member
    cases member
  | @acquisitionReported first error middle kept untried acquires authentication reply =>
    refine ⟨first, _, middle, rfl, ?_, ended_eq middle error, .inr ⟨_, kept, untried, acquires⟩⟩
    rw [List.forall_mem_cons]
    exact ⟨rfl, isWithin_mono (reporting_isWithin middle error reply)⟩
  | @firstRound first later context middle after outcome kept untried acquires rounds =>
    refine ⟨first, _, middle, rfl, ?_, ?_, .inr ⟨_, kept, untried, acquires⟩⟩
    · rw [List.forall_mem_cons]
      exact ⟨rfl, rounds.isWithin⟩
    · rw [rounds.after_eq]
      rfl
  | laterRound kept running held rounds =>
    exact ⟨[], _, session, rfl, rounds.isWithin, rounds.after_eq, .inl ⟨rfl, rfl⟩⟩

/-- A round keeps the accounts. -/
theorem Generates.accounts {session after : Session P} {token : Option Token}
    {past history : List (Happening P.collaborators)}
    {outcome : Except Error (Option Token × Bool)}
    (generates : Generates session token history outcome after) (sound : session.IsSound)
    (orderly : ∀ happening ∈ history, isOrderly happening = true)
    (accounts : session.Accounts past) : after.Accounts (past ++ history) := by
  have started := generates.state_ne orderly
  obtain ⟨first, later, middle, rfl, within, same, parts⟩ := generates.parts
  rcases parts with ⟨rfl, rfl⟩ | ⟨acquired, kept, untried, acquires⟩
  · exact accounts.aside within same (fun untried => absurd untried started)
  · have acquired := accounts.acquires sound kept untried acquires same started
    rw [← List.append_assoc]
    exact acquired.aside within rfl id

/-- A release keeps the accounts: it gives back what the session held. -/
theorem GivesBack.accounts {session : Session P}
    {past history : List (Happening P.collaborators)}
    (givesBack : GivesBack session.emptied session.holdings history) (sound : session.IsSound)
    (accounts : session.Accounts past) : session.emptied.Accounts (past ++ history) := by
  have found := givesBack.filterMap_disposal? session.part_holdings
  have noStage : history.filterMap stage? = [] :=
    unseen shows_stage? (givesBack.isWithin session.part_holdings)
  constructor
  · intro untried
    rw [List.filterMap_append, (accounts.untried untried).1, noStage]
    exact ⟨rfl, rfl, rfl⟩
  · intro stage
    rw [List.filterMap_append, noStage, List.append_nil]
    exact accounts.once stage
  · intro contradiction
    cases contradiction
  · intro _
    rw [List.filterMap_append, found, settlement_append noStage]
    cases released : session.released with
    | false =>
      obtain ⟨none, held⟩ := accounts.held released
      rw [held, none, List.nil_append]
    | true =>
      have nothing : session.holdings = [] := by
        rw [sound.emptied released]
        rfl
      rw [nothing, List.map_nil, List.append_nil]
      exact accounts.settled released

/-- With orderly peers every turn keeps the accounts. -/
theorem Turn.IsListed.accounts {turn : Turn P} (listed : turn.IsListed)
    (sound : turn.before.IsSound) (orderly : ∀ happening ∈ turn.history, isOrderly happening = true)
    {past : List (Happening P.collaborators)} (accounts : turn.before.Accounts past) :
    turn.after.Accounts (past ++ turn.history) := by
  cases listed with
  | generate token generates => exact generates.accounts sound orderly accounts
  | release givesBack => exact givesBack.accounts sound accounts

/-- With orderly peers the accounts are kept through a whole run. -/
theorem Leads.accounts {session last : Session P} {turns : List (Turn P)}
    (leads : Leads session turns last)
    (orderly : ∀ happening ∈ happenings turns, isOrderly happening = true)
    {past : List (Happening P.collaborators)} (accounts : session.Accounts past) :
    last.Accounts (past ++ happenings turns) :=
  leads.invariant (fun _ _ listed sound orderly accounts => listed.accounts sound orderly accounts)
    orderly accounts

/-! ## Whole runs -/

/-- Whatever orderly peers do and in whatever order the calls come, every stage is tried at most
once and no release raises an error. By the first release everything obtained has been given back,
once and in order, and nothing is obtained or given back later; without a release nothing is given
back. -/
theorem gives_back_once {σ : Type} (answer : Dialogue.Answerer P.collaborators σ) (host : String)
    (port : Int) (settings : Settings) (spn : String) (calls : List Call) (state : σ)
    (orderly : ∀ happening ∈ happenings (turns answer (opened host port settings spn) calls state),
      isOrderly happening = true) :
    let run := turns answer (opened host port settings spn) calls state
    (∀ stage, ((happenings run).filterMap stage?).count stage ≤ 1) ∧
    (∀ turn ∈ run, turn.call = .release → turn.outcome = .ok none) ∧
    (∀ earlier later, run = earlier ++ later → (∃ turn ∈ earlier, turn.call = .release) →
      (happenings earlier).filterMap disposal? = settlement (happenings run) ∧
        (happenings later).filterMap disposal? = [] ∧ (happenings later).filterMap stage? = []) ∧
    ((∀ turn ∈ run, turn.call ≠ .release) → (happenings run).filterMap disposal? = []) := by
  intro run
  have leads := leads_turns answer (isSound_opened host port settings spn) calls state
  -- the accounts balance after any number of turns, by induction over the turns
  have accounts := leads.accounts orderly (accounts_opened host port settings spn)
  rw [List.nil_append] at accounts
  refine ⟨accounts.once, ?releases, ?released, ?kept⟩
  case releases =>
    intro turn member call
    obtain ⟨listed, _⟩ := leads.isListed turn member
    cases listed with
    | generate => cases call
    | release => rfl
  case released =>
    intro earlier later split release
    change Leads _ run _ at leads
    rw [split] at leads
    obtain ⟨middle, first, second⟩ := leads.split
    -- the release lies before the cut, so what comes behind it asks for nothing more
    have released : middle.released = true := first.released_iff.mpr (.inr release)
    have within := second.isWithin_of_released released
    have noStage : (happenings later).filterMap stage? = [] :=
      unseen shows_stage? within
    have noDisposal : (happenings later).filterMap disposal? = [] :=
      unseen shows_disposal? within
    have settled : middle.Accounts (happenings earlier) := by
      apply first.accounts ?_ (accounts_opened host port settings spn)
      intro happening member
      apply orderly happening
      change happening ∈ happenings run
      rw [split, happenings_append]
      exact List.mem_append_left _ member
    -- nothing is obtained behind the cut, so what is owed is what was owed there
    rw [split, happenings_append, settlement_append noStage]
    exact ⟨settled.settled released, noDisposal, noStage⟩
  case kept =>
    intro none
    -- without a release the session is unreleased at the end, and its accounts show no disposal
    have kept : (afterTurns (opened host port settings spn) run).released = false := by
      rw [Bool.eq_false_iff]
      intro released
      rcases leads.released_iff.mp released with contradiction | ⟨turn, member, call⟩
      · cases contradiction
      · exact none turn member call
    exact (accounts.held kept).1

/-- Peers that count are given back what they handed out, although they raise an error each time. -/
theorem counted_given_back :
    (∀ happening ∈ happenings countedTurns, isOrderly happening = true) ∧
      (happenings (countedTurns.take 3)).filterMap disposal? =
        [.disposeCredential (0 : Nat), .disposeContext (0 : Nat), .logout "user@EXAMPLE.COM"] ∧
      (happenings (countedTurns.drop 3)).filterMap disposal? = [] := by
  have orderly : ∀ happening ∈ happenings countedTurns, isOrderly happening = true := by decide
  obtain ⟨_, _, released, _⟩ :=
    gives_back_once counting "db" 1433 {} "MSSQLSvc/db:1433" twoRounds 0 orderly
  have split : countedTurns = countedTurns.take 3 ++ countedTurns.drop 3 :=
    (List.take_append_drop 3 countedTurns).symm
  obtain ⟨found, nothing, _⟩ := released _ _ split (by decide)
  exact ⟨orderly, found, nothing⟩

end SignOn.Session
