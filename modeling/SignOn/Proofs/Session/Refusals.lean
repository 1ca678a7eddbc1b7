import SignOn.Proofs.Session.Observed

/-!
# Sessions that refuse further rounds

A session that was released, or whose handshake is over, refuses every further round: it reports a
state error and does nothing else (`Generates.of_refusal`). It never takes rounds up again
(`Leads.refuses`), and once it was released at most the connection is asked anything
(`Leads.isWithin_of_released`).
-/

set_option autoImplicit false

namespace SignOn.Session

open Dialogue (Happening)

variable {P : Peers}

/-! ## Refused rounds -/

/-- What a session refuses a round with is a state error. -/
theorem isA_state_of_refusal {session : Session P} {error : Error}
    (refusal : session.refusal? = some error) : error.isA .state = true := by
  unfold refusal? at refusal
  split at refusal
  · cases refusal
    rfl
  · split at refusal
    · cases refusal
      rfl
    · cases refusal

/-- A session that was not released and whose handshake is not over refuses no round. -/
theorem refusal?_eq_none {session : Session P} (kept : session.released = false)
    (going : session.handshake.state.isTerminal = false) : session.refusal? = none := by
  simp only [refusal?, kept, going, Bool.false_eq_true, if_false]

/-- A session that refuses rounds was released, or its handshake is over. -/
theorem refuses_iff {session : Session P} :
    session.refusal?.isSome = true ↔
      session.released = true ∨ session.handshake.state.isTerminal = true := by
  unfold refusal?
  cases session.released <;> cases session.handshake.state.isTerminal <;> simp

/-- A refused round is reported, and nothing else happens in it. -/
theorem Generates.of_refusal {session after : Session P} {token : Option Token} {error : Error}
    {history : List (Happening P.collaborators)} {outcome : Except Error (Option Token × Bool)}
    (generates : Generates session token history outcome after)
    (refusal : session.refusal? = some error) :
    ∃ reply, history = session.reporting error reply ∧ outcome = .error (leaving error reply) ∧
      after = session.ended error := by
  cases generates with
  | refused other found reply =>
    rw [refusal] at found
    cases found
    exact ⟨reply, rfl, rfl, rfl⟩
  | acquisitionEscaped kept untried | acquisitionReported kept untried | firstRound kept untried =>
    rw [refusal?_eq_none kept (by rw [untried]; rfl)] at refusal
    cases refusal
  | laterRound kept running =>
    rw [refusal?_eq_none kept (by rw [running]; rfl)] at refusal
    cases refusal

/-- A refused round asks nobody but the connection. -/
theorem Generates.isWithin_of_refuses {session after : Session P} {token : Option Token}
    {history : List (Happening P.collaborators)} {outcome : Except Error (Option Token × Bool)}
    (generates : Generates session token history outcome after)
    (refuses : session.refusal?.isSome = true) :
    ∀ happening ∈ history, isWithin [.report] happening = true := by
  obtain ⟨error, refusal⟩ := Option.isSome_iff_exists.mp refuses
  obtain ⟨reply, rfl, _, _⟩ := generates.of_refusal refusal
  exact reporting_isWithin session error reply

/-- After a fatal error the handshake is over. -/
theorem isTerminal_ended (session : Session P) (error : Error) :
    (session.ended error).handshake.state.isTerminal = true := by
  unfold ended
  split
  · assumption
  · rfl

/-- A fatal error leaves what a session holds, and whether it was released, as they are. -/
theorem ended_eq (session : Session P) (error : Error) :
    session.ended error = { session with handshake := (session.ended error).handshake } := by
  unfold ended
  split <;> rfl

/-- A round changes nothing but the handshake. -/
theorem Rounds.after_eq {session after : Session P} {context : P.Context} {token : Option Token}
    {history : List (Happening P.collaborators)} {outcome : Except Error (Option Token × Bool)}
    (rounds : Rounds session context token history outcome after) :
    after = { session with handshake := after.handshake } := by
  cases rounds with
  | stepEscaped | questionRaised | established | exchanged => rfl
  | stepReported error | noToken => exact ended_eq session _

/-! ## Released sessions -/

/-- Coming by a context releases no session. -/
theorem Acquires.released_eq {session after : Session P}
    {history : List (Happening P.collaborators)} {outcome : Except Error P.Context}
    (acquires : Acquires session history outcome after) : after.released = session.released := by
  cases acquires <;> rfl

/-- A round releases no session. -/
theorem Generates.released_eq {session after : Session P} {token : Option Token}
    {history : List (Happening P.collaborators)} {outcome : Except Error (Option Token × Bool)}
    (generates : Generates session token history outcome after) :
    after.released = session.released := by
  cases generates with
  | refused error => rw [ended_eq]
  | acquisitionEscaped _ _ acquires => exact acquires.released_eq
  | acquisitionReported _ _ acquires =>
    rw [ended_eq]
    exact acquires.released_eq
  | firstRound _ _ acquires rounds =>
    rw [rounds.after_eq]
    exact acquires.released_eq
  | laterRound _ _ _ rounds => rw [rounds.after_eq]

/-- A session is released by a release and by nothing else. -/
theorem Turn.IsListed.released_iff {turn : Turn P} (listed : turn.IsListed) :
    turn.after.released = true ↔ turn.before.released = true ∨ turn.call = .release := by
  cases listed with
  | generate token generates => simp [generates.released_eq]
  | release givesBack => simp [emptied]

/-- A session that refuses rounds still refuses them after another turn. -/
theorem Turn.IsListed.refuses {turn : Turn P} (listed : turn.IsListed)
    (refuses : turn.before.refusal?.isSome = true) : turn.after.refusal?.isSome = true := by
  rw [refuses_iff]
  cases listed with
  | generate token generates =>
    obtain ⟨error, refusal⟩ := Option.isSome_iff_exists.mp refuses
    obtain ⟨reply, _, _, rfl⟩ := generates.of_refusal refusal
    exact .inr (isTerminal_ended _ error)
  | release givesBack => exact .inl rfl

/-- On a released session a call asks at most the connection. -/
theorem Turn.IsListed.isWithin_of_released {turn : Turn P} (listed : turn.IsListed)
    (sound : turn.before.IsSound) (released : turn.before.released = true) :
    ∀ happening ∈ turn.history, isWithin [.report] happening = true := by
  cases listed with
  | generate token generates =>
    exact generates.isWithin_of_refuses (refuses_iff.mpr (.inl released))
  | @release before history givesBack =>
    have nothing : before.holdings = [] := by
      have empty : before = before.emptied := sound.emptied released
      rw [empty]
      rfl
    rw [nothing] at givesBack
    cases givesBack
    intro happening member
    cases member

/-! ## Runs -/

/-- What every turn keeps of a session holds before every turn and after the last. -/
theorem Leads.keeps (holds : Session P → Prop)
    (step : ∀ turn : Turn P, turn.IsListed → turn.before.IsSound → holds turn.before →
      holds turn.after)
    {session last : Session P} {turns : List (Turn P)} (leads : Leads session turns last)
    (start : holds session) : (∀ turn ∈ turns, holds turn.before) ∧ holds last := by
  induction leads with
  | none session => exact ⟨(fun _ member => by cases member), start⟩
  | turn listed sound rest ih =>
    obtain ⟨before, after⟩ := ih (step _ listed sound start)
    refine ⟨?_, after⟩
    intro other member
    rcases List.mem_cons.mp member with rfl | member
    · exact start
    · exact before other member

/-- Every turn of a session is one of those listed, and it begins with a sound session. -/
theorem Leads.isListed {session last : Session P} {turns : List (Turn P)}
    (leads : Leads session turns last) :
    ∀ turn ∈ turns, turn.IsListed ∧ turn.before.IsSound := by
  induction leads with
  | none session =>
    intro turn member
    cases member
  | turn listed sound rest ih =>
    intro other member
    rcases List.mem_cons.mp member with rfl | member
    · exact ⟨listed, sound⟩
    · exact ih other member

/-- A session that refuses rounds refuses all of a run. -/
theorem Leads.refuses {session last : Session P} {turns : List (Turn P)}
    (leads : Leads session turns last) (refuses : session.refusal?.isSome = true) :
    ∀ turn ∈ turns, turn.before.refusal?.isSome = true := by
  have step : ∀ turn : Turn P, turn.IsListed → turn.before.IsSound →
      turn.before.refusal?.isSome = true → turn.after.refusal?.isSome = true :=
    fun _ listed _ => listed.refuses
  exact (leads.keeps (fun session => session.refusal?.isSome = true) step refuses).1

/-- A session is released after a run if it was before or the run has a release. -/
theorem Leads.released_iff {session last : Session P} {turns : List (Turn P)}
    (leads : Leads session turns last) :
    last.released = true ↔
      session.released = true ∨ ∃ turn ∈ turns, turn.call = .release := by
  induction leads with
  | none session => simp
  | turn listed sound rest ih =>
    rw [ih, listed.released_iff]
    simp [or_assoc]

/-- Once a session was released, at most the connection is asked anything. -/
theorem Leads.isWithin_of_released {session last : Session P} {turns : List (Turn P)}
    (leads : Leads session turns last) (released : session.released = true) :
    ∀ happening ∈ happenings turns, isWithin [.report] happening = true := by
  have step : ∀ turn : Turn P, turn.IsListed → turn.before.IsSound →
      turn.before.released = true → turn.after.released = true :=
    fun _ listed _ released => listed.released_iff.mpr (.inl released)
  have before := (leads.keeps (fun session => session.released = true) step released).1
  intro happening member
  unfold happenings at member
  rw [List.mem_flatMap] at member
  obtain ⟨turn, found, member⟩ := member
  obtain ⟨listed, sound⟩ := leads.isListed turn found
  exact listed.isWithin_of_released sound (before turn found) happening member

end SignOn.Session
