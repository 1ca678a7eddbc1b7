import SignOn.Proofs.Session.Calls

/-!
# What is seen of a session

Every request of a session belongs to one part of its work (`part`), and every step of a session
stays within a few parts. What happened can be looked at in many ways: the stages of coming by a
context that were tried, what was obtained and what was given back, the tokens passed on, the
fatal errors reported. Each of these ways shows one part of the work only, so nothing is seen of
it where a session stays within other parts (`unseen`). What a session owes to its peers is
`settlement`, and peers are orderly as long as they raise no errors but those that they are meant
to raise (`isOrderly`).
-/

set_option autoImplicit false

namespace SignOn.Session

open Dialogue (Happening)

variable {P : Peers}

/-! ## The parts of the work -/

/-- The parts of the work of a session: coming by a context, exchanging tokens, giving things back
and reporting fatal errors. -/
inductive Part where
  | acquisition
  | exchange
  | disposal
  | report
  deriving DecidableEq

/-- The part of the work that a request belongs to. -/
def part : Peers.Request P → Part
  | .ambientIdentity | .login _ | .acquireCredential _ _ | .createContext _ _ _ => .acquisition
  | .step _ _ | .isEstablished _ => .exchange
  | .disposeCredential _ | .disposeContext _ | .logout _ => .disposal
  | .report _ _ => .report

/-- Whatever is asked in a happening belongs to some parts of the work. -/
def isWithin (parts : List Part) : Happening P.collaborators → Bool
  | .logged _ => true
  | .asked request _ => decide (part request ∈ parts)

/-- What stays within some parts of the work stays within more of them. -/
theorem isWithin_mono {parts more : List Part} {history : List (Happening P.collaborators)}
    (within : ∀ happening ∈ history, isWithin parts happening = true)
    (all : parts ⊆ more := by simp) :
    ∀ happening ∈ history, isWithin more happening = true := by
  intro happening member
  have found := within happening member
  cases happening with
  | logged event => rfl
  | asked request reply => exact decide_eq_true (all (of_decide_eq_true found))

/-- A way of looking at happenings shows something of one part of the work only. -/
structure Shows {β : Type} (see : Happening P.collaborators → Option β) (only : Part) : Prop where
  logged : ∀ event, see (.logged event) = none
  asked : ∀ request reply, part request ≠ only → see (.asked request reply) = none

/-- Nothing is seen of a part of the work where a session stays within others. -/
theorem unseen {β : Type} {see : Happening P.collaborators → Option β} {only : Part}
    {parts : List Part} {history : List (Happening P.collaborators)} (shows : Shows see only)
    (within : ∀ happening ∈ history, isWithin parts happening = true)
    (other : only ∉ parts := by decide) : history.filterMap see = [] := by
  rw [List.filterMap_eq_nil_iff]
  intro happening member
  have found := within happening member
  cases happening with
  | logged event => exact shows.logged event
  | asked request reply =>
    apply shows.asked
    intro same
    rw [← same] at other
    exact other (of_decide_eq_true found)

/-! ## Obtaining and giving back -/

/-- The stages of coming by a context. -/
inductive Stage where
  | ambientIdentity
  | login
  | credential
  | context
  deriving DecidableEq

/-- The stage that is tried. -/
def stage? : Happening P.collaborators → Option Stage
  | .asked .ambientIdentity _ => some .ambientIdentity
  | .asked (.login _) _ => some .login
  | .asked (.acquireCredential _ _) _ => some .credential
  | .asked (.createContext _ _ _) _ => some .context
  | _ => none

/-- The request by which something is given back. -/
def disposal? : Happening P.collaborators → Option (Peers.Request P)
  | .asked request _ => if part request = .disposal then some request else none
  | .logged _ => none

/-- The identity that is obtained, with its origin. -/
def obtained? : Happening P.collaborators → Option (Origin × P.Identity)
  | .asked .ambientIdentity (.ok (some identity)) => some (.ambient, identity)
  | .asked (.login _) (.ok identity) => some (.login, identity)
  | _ => none

/-- The credential that is obtained. -/
def credential? : Happening P.collaborators → Option P.Credential
  | .asked (.acquireCredential _ _) (.ok credential) => some credential
  | _ => none

/-- The context that is obtained. -/
def context? : Happening P.collaborators → Option P.Context
  | .asked (.createContext _ _ _) (.ok context) => some context
  | _ => none

/-- The identity that a request logs out. -/
def loggedOut? : Peers.Request P → Option P.Identity
  | .logout identity => some identity
  | _ => none

/-- The identity that is logged out. -/
def logout? : Happening P.collaborators → Option P.Identity
  | .asked request _ => loggedOut? request
  | .logged _ => none

/-- The identities of one origin among those obtained. -/
def ofOrigin (origin : Origin) (identities : List (Origin × P.Identity)) : List P.Identity :=
  (identities.filter (fun found => found.1 = origin)).map Prod.snd

/-- What is to be given back of all that was obtained: every credential, every context and every
identity of a login, in this order. -/
def settlement (history : List (Happening P.collaborators)) : List (Peers.Request P) :=
  (history.filterMap credential?).map .disposeCredential ++
    (history.filterMap context?).map .disposeContext ++
    (ofOrigin .login (history.filterMap obtained?)).map .logout

/-- The stages that are tried show coming by a context only. -/
theorem shows_stage? : Shows (P := P) stage? .acquisition where
  logged _ := rfl
  asked request _ other := by
    cases request <;> first | rfl | exact absurd rfl other

/-- The contexts that are obtained show coming by a context only. -/
theorem shows_context? : Shows (P := P) context? .acquisition where
  logged _ := rfl
  asked request _ other := by
    cases request <;> first | rfl | exact absurd rfl other

/-- What is given back shows giving back only. -/
theorem shows_disposal? : Shows (P := P) disposal? .disposal where
  logged _ := rfl
  asked _ _ other := if_neg other

/-- The identities of one origin in two lists are those in the one and then those in the other. -/
@[simp] theorem ofOrigin_append (origin : Origin) (earlier later : List (Origin × P.Identity)) :
    ofOrigin origin (earlier ++ later) = ofOrigin origin earlier ++ ofOrigin origin later := by
  simp [ofOrigin]

/-- To log somebody out is to give something back. -/
theorem filterMap_logout? (history : List (Happening P.collaborators)) :
    history.filterMap logout? = (history.filterMap disposal?).filterMap loggedOut? := by
  rw [List.filterMap_filterMap]
  congr 1
  funext happening
  cases happening with
  | logged event => rfl
  | asked request reply => cases request <;> rfl

/-- Where no stage is tried, nothing is obtained. -/
theorem nothing_of_stages {history : List (Happening P.collaborators)}
    (none : history.filterMap stage? = []) :
    history.filterMap obtained? = [] ∧ history.filterMap credential? = [] ∧
      history.filterMap context? = [] := by
  simp only [List.filterMap_eq_nil_iff] at none ⊢
  refine ⟨?obtained, ?credentials, ?contexts⟩
  all_goals
    intro happening member
    have untried := none happening member
    cases happening with
    | logged event => rfl
    | asked request reply => cases request <;> first | rfl | cases untried

/-- Where no stage is tried, nothing more is owed. -/
theorem settlement_append {earlier later : List (Happening P.collaborators)}
    (none : later.filterMap stage? = []) : settlement (earlier ++ later) = settlement earlier := by
  obtain ⟨noIdentity, noCredential, noContext⟩ := nothing_of_stages none
  simp only [settlement, List.filterMap_append, noIdentity, noCredential, noContext,
    List.append_nil]

/-- What is owed goes back to the first stage that was tried. -/
theorem settlement_append_of_untried {earlier later : List (Happening P.collaborators)}
    (none : earlier.filterMap stage? = []) : settlement (earlier ++ later) = settlement later := by
  obtain ⟨noIdentity, noCredential, noContext⟩ := nothing_of_stages none
  simp only [settlement, List.filterMap_append, noIdentity, noCredential, noContext,
    List.nil_append]

/-! ## The handshake and its failures -/

/-- The token that is passed on to the context. -/
def given? : Happening P.collaborators → Option (Option Token)
  | .asked (.step _ token) _ => some token
  | _ => none

/-- The token that the context answers with. -/
def output? : Happening P.collaborators → Option (Option Token)
  | .asked (.step _ _) (.ok out) => some out
  | _ => none

/-- Whether the context is said to be established. -/
def flag? : Happening P.collaborators → Option Bool
  | .asked (.isEstablished _) (.ok flag) => some flag
  | _ => none

/-- The fatal error that is reported: the text for the user, the cause, and what the connection
makes of it. -/
def report? : Happening P.collaborators → Option (String × Error × Except Error Unit)
  | .asked (.report reason cause) reply => some (reason, cause, reply)
  | _ => none

/-- The tokens passed on show the exchange only. -/
theorem shows_given? : Shows (P := P) given? .exchange where
  logged _ := rfl
  asked request _ other := by
    cases request <;> first | rfl | exact absurd rfl other

/-- The tokens answered with show the exchange only. -/
theorem shows_output? : Shows (P := P) output? .exchange where
  logged _ := rfl
  asked request _ other := by
    cases request <;> first | rfl | exact absurd rfl other

/-- The questions whether the context is established show the exchange only. -/
theorem shows_flag? : Shows (P := P) flag? .exchange where
  logged _ := rfl
  asked request _ other := by
    cases request <;> first | rfl | exact absurd rfl other

/-- The errors reported show reporting only. -/
theorem shows_report? : Shows (P := P) report? .report where
  logged _ := rfl
  asked request _ other := by
    cases request <;> first | rfl | exact absurd rfl other

/-! ## Orderly peers -/

/-- A request on which the handshake depends; an authentication error in it is fatal. -/
def isOperation : Peers.Request P → Bool
  | .ambientIdentity | .login _ | .acquireCredential _ _ | .createContext _ _ _ | .step _ _ => true
  | _ => false

/-- The authentication error that an operation raises. -/
def fault? : Happening P.collaborators → Option Error
  | .asked request (.error error) =>
    if isOperation request && error.isA .authentication then some error else none
  | _ => none

/-- A peer may raise an error when asked a request: an authentication error in an operation, none
about whether the context is established, any when something is given back or reported. -/
def allows : Peers.Request P → Error → Bool
  | .isEstablished _, _ => false
  | request, error => !isOperation request || error.isA .authentication

/-- A happening in which no peer raises an error that it is not meant to raise. -/
def isOrderly : Happening P.collaborators → Bool
  | .asked request (.error error) => allows request error
  | _ => true

/-- The only errors that orderly peers raise in an operation are authentication errors. -/
theorem isA_authentication_of_isOrderly {request : Peers.Request P} {error : Error}
    (operation : isOperation request = true)
    (orderly : isOrderly (P := P) (.asked request (.error error)) = true) :
    error.isA .authentication = true := by
  have allowed : allows request error = true := orderly
  cases request <;> first | exact allowed | cases operation

/-- What keeps a session from a context is raised by an operation in the end, and nothing fatal is
raised before. -/
theorem Acquires.raised {session after : Session P} {error : Error}
    {history : List (Happening P.collaborators)}
    (acquires : Acquires session history (.error error) after) :
    ∃ first request, history = first ++ [.asked request (.error error)] ∧
      first.filterMap fault? = [] ∧ isOperation request = true := by
  cases acquires with
  | ambientRaised => exact ⟨[], _, rfl, rfl, rfl⟩
  | loginRaised => exact ⟨[_, _], _, rfl, rfl, rfl⟩
  | credentialRaised identifies =>
    cases identifies with
    | ambient => exact ⟨[_, _], _, rfl, rfl, rfl⟩
    | login => exact ⟨[_, _, _, _], _, rfl, rfl, rfl⟩
  | contextRaised identifies =>
    cases identifies with
    | ambient => exact ⟨[_, _, _, _], _, rfl, rfl, rfl⟩
    | login => exact ⟨[_, _, _, _, _, _], _, rfl, rfl, rfl⟩

/-- Where peers are orderly, only authentication errors keep a session from a context. -/
theorem Acquires.isA_authentication {session after : Session P} {error : Error}
    {history : List (Happening P.collaborators)}
    (acquires : Acquires session history (.error error) after)
    (orderly : ∀ happening ∈ history, isOrderly happening = true) :
    error.isA .authentication = true := by
  obtain ⟨first, request, rfl, _, operation⟩ := acquires.raised
  rw [List.forall_mem_append, List.forall_mem_singleton] at orderly
  exact isA_authentication_of_isOrderly operation orderly.2

/-! ## What the steps of a session stay within -/

/-- In coming by a context nothing is exchanged, given back or reported. -/
theorem Acquires.isWithin {session after : Session P}
    {history : List (Happening P.collaborators)} {outcome : Except Error P.Context}
    (acquires : Acquires session history outcome after) :
    ∀ happening ∈ history, isWithin [.acquisition] happening = true := by
  cases acquires with
  | ambientRaised | loginRaised => simp [Session.isWithin, part, noting]
  | credentialRaised identifies | contextRaised identifies | created identifies =>
    cases identifies <;> simp [Session.isWithin, part, noting]

/-- To report a fatal error is to ask the connection and nobody else. -/
theorem reporting_isWithin (session : Session P) (error : Error) (reply : Except Error Unit) :
    ∀ happening ∈ session.reporting error reply, isWithin [.report] happening = true := by
  unfold reporting
  split <;> simp [isWithin, part, moving]

/-- Reporting a fatal error reports this error, once. -/
theorem report?_reporting (session : Session P) (error : Error) (reply : Except Error Unit) :
    (session.reporting error reply).filterMap report? =
      [(integratedAuthenticationFailed, error, reply)] := by
  unfold reporting
  split <;> rfl

/-- In a round with a context nothing is obtained or given back. -/
theorem Rounds.isWithin {session after : Session P} {context : P.Context} {token : Option Token}
    {history : List (Happening P.collaborators)} {outcome : Except Error (Option Token × Bool)}
    (rounds : Rounds session context token history outcome after) :
    ∀ happening ∈ history, isWithin [.exchange, .report] happening = true := by
  have reported : ∀ error reply, ∀ happening ∈ session.reporting error reply,
      Session.isWithin [.exchange, .report] happening = true :=
    fun error reply => isWithin_mono (reporting_isWithin session error reply)
  cases rounds with
  | stepReported error _ reply => simpa [Session.isWithin, part, noting] using reported error reply
  | noToken reply => simpa [Session.isWithin, part, noting] using reported .noToken reply
  | stepEscaped | questionRaised | established | exchanged =>
    simp [Session.isWithin, part, noting, moving]

/-- To ask for all that a session holds to be given back is to dispose of it. -/
theorem part_holdings (session : Session P) :
    ∀ holding ∈ session.holdings, part holding.2 = .disposal := by
  intro holding member
  unfold holdings at member
  simp only [List.mem_append, List.mem_map] at member
  rcases member with (⟨_, _, rfl⟩ | ⟨_, _, rfl⟩) | ⟨_, _, rfl⟩ <;> rfl

/-- Things are given back in their order, each once. -/
theorem GivesBack.filterMap_disposal? {session : Session P}
    {requests : List (Resource × Peers.Request P)} {history : List (Happening P.collaborators)}
    (givesBack : GivesBack session requests history)
    (all : ∀ holding ∈ requests, part holding.2 = .disposal) :
    history.filterMap disposal? = requests.map Prod.snd := by
  induction givesBack with
  | none => rfl
  | done resource value others ih =>
    rw [List.forall_mem_cons] at all
    simp only [List.filterMap_cons, disposal?, all.1, if_true, ih all.2, List.map_cons]
  | failed resource error others ih =>
    rw [List.forall_mem_cons] at all
    simp only [List.filterMap_cons, disposal?, all.1, if_true, noting, ih all.2, List.map_cons]

/-- In giving things back nothing is obtained, exchanged or reported. -/
theorem GivesBack.isWithin {session : Session P}
    {requests : List (Resource × Peers.Request P)} {history : List (Happening P.collaborators)}
    (givesBack : GivesBack session requests history)
    (all : ∀ holding ∈ requests, part holding.2 = .disposal) :
    ∀ happening ∈ history, isWithin [.disposal] happening = true := by
  induction givesBack with
  | none =>
    intro happening member
    cases member
  | done resource value others ih =>
    rw [List.forall_mem_cons] at all ⊢
    exact ⟨by simp [Session.isWithin, all.1], ih all.2⟩
  | failed resource error others ih =>
    rw [List.forall_mem_cons] at all
    rw [List.forall_mem_cons, List.forall_mem_cons]
    exact ⟨by simp [Session.isWithin, all.1], rfl, ih all.2⟩

/-! ## Peers that count -/

/-- Peers that know identities by name, and credentials and contexts by number. -/
def namedPeers : Peers := ⟨String, Nat, Nat⟩

/-- Named peers that count the steps of the handshake, which takes two. There is no ambient
identity, and nothing can be given back. -/
def counting : Dialogue.Answerer namedPeers.collaborators Nat
  | .ambientIdentity, steps => (.ok none, steps)
  | .login _, steps => (.ok "user@EXAMPLE.COM", steps)
  | .acquireCredential _ _, steps => (.ok (0 : Nat), steps)
  | .createContext _ _ _, steps => (.ok (0 : Nat), steps)
  | .step _ _, steps => (.ok (some [1]), steps + 1)
  | .isEstablished _, steps => (.ok (decide (2 ≤ steps)), steps)
  | .disposeCredential _, steps | .disposeContext _, steps => (.error .contextDisposed, steps)
  | .logout _, steps => (.error .contextDisposed, steps)
  | .report _ _, steps => (.ok (), steps)

/-- A handshake of two rounds, its release, and calls that come too late. -/
def twoRounds : List Call :=
  [.generate none, .generate (some [7, 7]), .release, .generate none, .release]

/-- The turns of a handshake of two rounds with peers that count. -/
def countedTurns : List (Turn namedPeers) :=
  turns counting (opened "db" 1433 {} "MSSQLSvc/db:1433") twoRounds 0

end SignOn.Session
