import SignOn.Proofs.Session.Resources

/-!
# Whom a session logs out

A release logs out the identity that the session came by last, if any login ever succeeded
(`logouts_eq`). The ambient identity belongs to the application, so this ought to be the identity
of a login. It need not be: an error other than an authentication error leaves the handshake at
its start, and the next round may find an ambient identity where the one before had to log in
(`application_logged_out`). The second part of `logouts_eq` says exactly when only logins are
logged out.
-/

set_option autoImplicit false

namespace SignOn.Session

open Dialogue (Happening)

variable {P : Peers}

/-- Only identities that a login gave are logged out, and none that was found as the ambient one. -/
def LogsOutLogins (history : List (Happening P.collaborators)) : Prop :=
  ∀ identity ∈ history.filterMap logout?,
    identity ∈ ofOrigin .login (history.filterMap obtained?) ∧
      identity ∉ ofOrigin .ambient (history.filterMap obtained?)

/-- Whom a release logs out after these identities were obtained: the last one, if there was a
login. -/
def lastIfLogin (identities : List (Origin × P.Identity)) : List P.Identity :=
  if (ofOrigin .login identities).isEmpty then [] else (identities.getLast?.map Prod.snd).toList

/-- What a session remembers of the identities obtained so far: up to its release the last one, and
whether there was a login; by then it has logged out whom it had to. -/
structure Remembers (session : Session P) (past : List (Happening P.collaborators)) : Prop where
  identity : session.released = false →
    session.identity = (past.filterMap obtained?).getLast?.map Prod.snd
  loggedIn : session.released = false →
    session.loggedIn = !(ofOrigin .login (past.filterMap obtained?)).isEmpty
  kept : session.released = false → past.filterMap logout? = []
  settled : session.released = true →
    past.filterMap logout? = lastIfLogin (past.filterMap obtained?)

/-- A session that has just been opened remembers no identity. -/
theorem remembers_opened (host : String) (port : Int) (settings : Settings) (spn : String) :
    (opened host port settings spn : Session P).Remembers [] where
  identity _ := rfl
  loggedIn _ := rfl
  kept _ := rfl
  settled contradiction := by cases contradiction

/-- Exchanges and reports leave the memory of a session as it is. -/
theorem Remembers.aside {session after : Session P}
    {past history : List (Happening P.collaborators)} (remembers : session.Remembers past)
    (within : ∀ happening ∈ history, isWithin [.exchange, .report] happening = true)
    (same : after = { session with handshake := after.handshake }) :
    after.Remembers (past ++ history) := by
  obtain ⟨noIdentity, _, _⟩ := nothing_of_stages (unseen shows_stage? within)
  have noLogout : history.filterMap logout? = [] := by
    rw [filterMap_logout?, unseen shows_disposal? within, List.filterMap_nil]
  have released_eq : after.released = session.released := by rw [same]
  have identity_eq : after.identity = session.identity := by rw [same]
  have loggedIn_eq : after.loggedIn = session.loggedIn := by rw [same]
  constructor
  · intro kept
    rw [List.filterMap_append, noIdentity, List.append_nil, identity_eq]
    exact remembers.identity (released_eq ▸ kept)
  · intro kept
    rw [List.filterMap_append, noIdentity, List.append_nil, loggedIn_eq]
    exact remembers.loggedIn (released_eq ▸ kept)
  · intro kept
    rw [List.filterMap_append, noLogout, List.append_nil]
    exact remembers.kept (released_eq ▸ kept)
  · intro released
    rw [List.filterMap_append, noLogout, List.append_nil, List.filterMap_append, noIdentity,
      List.append_nil]
    exact remembers.settled (released_eq ▸ released)

/-- In coming by a context the last identity takes the place of the one before, and a login is not
forgotten. -/
theorem Acquires.identity_eq {session after : Session P}
    {history : List (Happening P.collaborators)} {outcome : Except Error P.Context}
    (acquires : Acquires session history outcome after) :
    after.identity = ((history.filterMap obtained?).getLast?.map Prod.snd).or session.identity ∧
      after.loggedIn =
        (session.loggedIn || !(ofOrigin .login (history.filterMap obtained?)).isEmpty) := by
  cases acquires with
  | ambientRaised | loginRaised =>
    simp [ofOrigin, List.filterMap_cons, obtained?, noting]
  | credentialRaised identifies | contextRaised identifies | created identifies =>
    cases identifies <;>
      simp [ofOrigin, List.filterMap_cons, obtained?, noting, identified]

/-- Coming by a context adds the identities obtained for it. -/
theorem Remembers.acquires {session after : Session P}
    {past history : List (Happening P.collaborators)} {outcome : Except Error P.Context}
    (remembers : session.Remembers past) (kept : session.released = false)
    (acquires : Acquires session history outcome after) : after.Remembers (past ++ history) := by
  obtain ⟨identity, loggedIn⟩ := acquires.identity_eq
  have noLogout : history.filterMap logout? = [] := by
    rw [filterMap_logout?, unseen shows_disposal? acquires.isWithin, List.filterMap_nil]
  constructor
  · intro _
    rw [List.filterMap_append, List.getLast?_append, identity, remembers.identity kept]
    cases (history.filterMap obtained?).getLast? <;> rfl
  · intro _
    rw [List.filterMap_append, ofOrigin_append, loggedIn, remembers.loggedIn kept]
    cases ofOrigin .login (past.filterMap obtained?) <;> rfl
  · intro _
    rw [List.filterMap_append, noLogout, List.append_nil]
    exact remembers.kept kept
  · intro released
    rw [acquires.released_eq, kept] at released
    cases released

/-- A round adds the identities obtained in it. -/
theorem Generates.remembers {session after : Session P} {token : Option Token}
    {past history : List (Happening P.collaborators)}
    {outcome : Except Error (Option Token × Bool)}
    (generates : Generates session token history outcome after)
    (remembers : session.Remembers past) : after.Remembers (past ++ history) := by
  obtain ⟨first, later, middle, rfl, within, same, parts⟩ := generates.parts
  rcases parts with ⟨rfl, rfl⟩ | ⟨acquired, kept, untried, acquires⟩
  · exact remembers.aside within same
  · rw [← List.append_assoc]
    exact (remembers.acquires kept acquires).aside within same

/-- A session gives back its identity only if it logged in. -/
theorem filterMap_loggedOut? (session : Session P) :
    (session.holdings.map Prod.snd).filterMap loggedOut? =
      if session.loggedIn then session.identity.toList else [] := by
  unfold holdings
  cases session.credential <;> cases session.context <;> cases session.identity <;>
    cases session.loggedIn <;> rfl

/-- A release logs out whom the session has to. -/
theorem GivesBack.remembers {session : Session P}
    {past history : List (Happening P.collaborators)}
    (givesBack : GivesBack session.emptied session.holdings history) (sound : session.IsSound)
    (remembers : session.Remembers past) : session.emptied.Remembers (past ++ history) := by
  have found := givesBack.filterMap_disposal? session.part_holdings
  have within := givesBack.isWithin session.part_holdings
  obtain ⟨noIdentity, _, _⟩ := nothing_of_stages (unseen shows_stage? within)
  constructor
  · intro contradiction
    cases contradiction
  · intro contradiction
    cases contradiction
  · intro contradiction
    cases contradiction
  · intro _
    rw [List.filterMap_append, filterMap_logout? history, found, filterMap_loggedOut?,
      List.filterMap_append, noIdentity, List.append_nil]
    cases released : session.released with
    | false =>
      rw [remembers.kept released, List.nil_append, remembers.loggedIn released,
        remembers.identity released]
      unfold lastIfLogin
      cases (ofOrigin .login (past.filterMap obtained?)).isEmpty <;> rfl
    | true =>
      have noLogin : session.loggedIn = false := by
        rw [sound.emptied released]
        rfl
      rw [if_neg (by simp [noLogin]), List.append_nil]
      exact remembers.settled released

/-- Every run keeps the memory of a session, whatever the peers do. -/
theorem Leads.remembers {session last : Session P} {turns : List (Turn P)}
    (leads : Leads session turns last) {past : List (Happening P.collaborators)}
    (remembers : session.Remembers past) : last.Remembers (past ++ happenings turns) := by
  have all : ∀ happening ∈ happenings turns, True := fun _ _ => trivial
  refine leads.invariant ?_ all remembers
  intro past turn listed sound _ remembers
  cases listed with
  | generate token generates => exact generates.remembers remembers
  | release givesBack => exact givesBack.remembers sound remembers

/-- Only logins are among the identities logged out by a release exactly if there was no login, or
the last identity is one that a login gave and that was never found as the ambient one. -/
theorem lastIfLogin_iff (identities : List (Origin × P.Identity)) :
    (∀ identity ∈ lastIfLogin identities,
      identity ∈ ofOrigin .login identities ∧ identity ∉ ofOrigin .ambient identities) ↔
    ofOrigin .login identities = [] ∨ ∃ last, identities.getLast?.map Prod.snd = some last ∧
      last ∈ ofOrigin .login identities ∧ last ∉ ofOrigin .ambient identities := by
  unfold lastIfLogin
  cases logins : ofOrigin .login identities with
  | nil => simp
  | cons first others =>
    cases last : identities.getLast? with
    | none =>
      rw [List.getLast?_eq_none_iff] at last
      rw [last] at logins
      cases logins
    | some found => simp

/-- Whatever the peers do, a run with a release logs out the last identity that was obtained if
there was a login, and a run without one logs out nobody. So only logins are logged out exactly if
there was no release, no login, or the last identity is one that a login gave and that was never
found as the ambient one. -/
theorem logouts_eq {σ : Type} (answer : Dialogue.Answerer P.collaborators σ) (host : String)
    (port : Int) (settings : Settings) (spn : String) (calls : List Call) (state : σ) :
    let run := turns answer (opened host port settings spn) calls state
    let identities := (happenings run).filterMap obtained?
    ((happenings run).filterMap logout? =
      if ∃ turn ∈ run, turn.call = .release then lastIfLogin identities else []) ∧
    (LogsOutLogins (happenings run) ↔
      (∀ turn ∈ run, turn.call ≠ .release) ∨ ofOrigin .login identities = [] ∨
        ∃ last, identities.getLast?.map Prod.snd = some last ∧
          last ∈ ofOrigin .login identities ∧ last ∉ ofOrigin .ambient identities) := by
  intro run identities
  have leads := leads_turns answer (isSound_opened host port settings spn) calls state
  change Leads _ run (afterTurns _ run) at leads
  have remembers := leads.remembers (remembers_opened host port settings spn)
  rw [List.nil_append] at remembers
  unfold LogsOutLogins
  -- a release settles what the session remembers; without one it is still held
  by_cases release : ∃ turn ∈ run, turn.call = .release
  · have logouts := remembers.settled (leads.released_iff.mpr (.inr release))
    have notNone : ¬ ∀ turn ∈ run, turn.call ≠ .release := by
      intro none
      obtain ⟨turn, member, call⟩ := release
      exact none turn member call
    rw [if_pos release, logouts, lastIfLogin_iff]
    exact ⟨rfl, by simp only [notNone, false_or]; exact Iff.rfl⟩
  · have none : ∀ turn ∈ run, turn.call ≠ .release :=
      fun turn member call => release ⟨turn, member, call⟩
    have kept : (afterTurns (opened host port settings spn) run).released = false := by
      rw [Bool.eq_false_iff]
      intro released
      rcases leads.released_iff.mp released with contradiction | found
      · cases contradiction
      · exact release found
    rw [if_neg release, remembers.kept kept]
    refine ⟨rfl, ?_⟩
    constructor
    · exact fun _ => .inl none
    · intro _ identity member
      cases member

/-! ## A login that is forgotten -/

/-- Named peers that refuse the first credential, in words of their own. By the next round the
application has an ambient identity. -/
def fickle : Dialogue.Answerer namedPeers.collaborators Bool
  | .ambientIdentity, refused => (.ok (if refused then some "application" else none), refused)
  | .login _, refused => (.ok "login", refused)
  | .acquireCredential _ _, refused =>
    (if refused then .ok (0 : Nat) else .error (.reported ⟨.runtime, "busy", none, none, none, ""⟩),
      true)
  | .createContext _ _ _, refused => (.ok (0 : Nat), refused)
  | .step _ _, refused => (.ok none, refused)
  | .isEstablished _, refused => (.ok true, refused)
  | .disposeCredential _, refused | .disposeContext _, refused => (.ok (), refused)
  | .logout _, refused | .report _ _, refused => (.ok (), refused)

/-- The identity of the application is logged out, although it was only ever found as the ambient
one: the session logged in before it found it. -/
theorem application_logged_out :
    let run := turns fickle (opened "db" 1433 {} "MSSQLSvc/db:1433")
      [.generate none, .generate none, .release] false
    (happenings run).filterMap logout? = ["application"] ∧
      (happenings run).filterMap obtained? =
        [(Origin.login, "login"), (Origin.ambient, "application")] ∧
      ¬ LogsOutLogins (happenings run) := by
  refine ⟨rfl, rfl, ?_⟩
  intro logins
  obtain ⟨login, _⟩ := logins "application" (.head [])
  have other : ("application" : String) ∈ ["login"] := login
  revert other
  decide

end SignOn.Session
