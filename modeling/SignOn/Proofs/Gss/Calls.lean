import SignOn.Proofs.Gss.Parts

/-!
# What calls on a binding do

Each operation of a binding is opened once, and what it can do to the slots is one of the effects
listed for it. Main statement: whatever the library does, every call has one of these effects, and
the library stays as available as it was (`path_call`).
-/

set_option autoImplicit false

namespace SignOn.Gss

open Dialogue (Happening)

variable {H : Handles} {α : Type}

/-- What a call does; it may hand out an item. -/
def Call.work : Call → Binding.Work H (Option Item)
  | .login configuration =>
    (fun number => some ⟨.identity, number⟩) <$> Binding.login configuration
  | .acquireCredential identity mechanism =>
    (fun number => some ⟨.credential, number⟩) <$> Binding.acquireCredential identity mechanism
  | .createContext flags peerName mechanism credential =>
    (fun number => some ⟨.context, number⟩) <$>
      Binding.createContext flags peerName mechanism credential
  | .step context token => (fun _ => none) <$> Binding.step context token
  | .giveUp ⟨.identity, number⟩ => (fun _ => none) <$> Binding.logout number
  | .giveUp ⟨.credential, number⟩ => (fun _ => none) <$> Binding.disposeCredential number
  | .giveUp ⟨.context, number⟩ => (fun _ => none) <$> Binding.disposeContext number

/-! ## Names -/

/-- The reply to a request for the name of a credential. -/
def nameReply? : Happening (library H) → Option (Except Error (Option String))
  | .asked (.nameOf _) reply => some reply
  | _ => none

/-- The last reply to a request for the name of a credential. -/
def lastName? (history : List (Happening (library H))) : Option (Except Error (Option String)) :=
  (history.filterMap nameReply?).getLast?

/-- The last name reported in two stretches is the last one of the second, or else of the first. -/
@[simp] theorem lastName?_append (earlier later : List (Happening (library H))) :
    lastName? (earlier ++ later) = (lastName? later).or (lastName? earlier) := by
  rw [lastName?, List.filterMap_append, List.getLast?_append]
  rfl

/-- A name that is reported last is the reply to a request for it. -/
theorem exists_mem_of_lastName? {history : List (Happening (library H))}
    {reply : Except Error (Option String)} (reported : lastName? history = some reply) :
    ∃ credential : H.Credential,
      (.asked (.nameOf credential) reply : Happening (library H)) ∈ history := by
  obtain ⟨happening, member, asks⟩ := List.mem_filterMap.mp (List.mem_of_getLast? reported)
  unfold nameReply? at asks
  split at asks
  · cases asks
    exact ⟨_, member⟩
  · cases asks

namespace Binding

variable {before after : Binding H} {history : List (Happening (library H))}

/-! ## Slots of a changed binding -/

/-- An identity that is added takes a new slot. -/
theorem slots_push_identity (binding : Binding H) (identity : Identity H.Credential) :
    slots { binding with identities := binding.identities.push identity } =
      binding.slots.push .identity ⟨identity.handle.map .credential, true⟩ := by
  funext kind
  cases kind <;> simp [slots, Slots.push]

/-- A credential that is added takes a new slot. -/
theorem slots_push_credential (binding : Binding H) (credential : Credential H) :
    slots { binding with credentials := binding.credentials.push credential } =
      binding.slots.push .credential
        ⟨credential.handle.map .credential, credential.ownsHandle⟩ := by
  funext kind
  cases kind <;> simp [slots, Slots.push]

/-- A context that is added takes a new slot. -/
theorem slots_push_context (binding : Binding H) (context : Context H) :
    slots { binding with contexts := binding.contexts.push context } =
      binding.slots.push .context ⟨context.handle.map .context, true⟩ := by
  funext kind
  cases kind <;> simp [slots, Slots.push]

/-- An identity that is replaced keeps its slot. -/
theorem slots_set_identity (binding : Binding H) (number : IdentityRef)
    (identity : Identity H.Credential) :
    slots { binding with identities := binding.identities.setIfInBounds number identity } =
      binding.slots.set ⟨.identity, number⟩ ⟨identity.handle.map .credential, true⟩ := by
  funext kind
  cases kind <;> simp [slots, Slots.set, List.map_set]

/-- A credential that is replaced keeps its slot. -/
theorem slots_set_credential (binding : Binding H) (number : CredentialRef)
    (credential : Credential H) :
    slots { binding with credentials := binding.credentials.setIfInBounds number credential } =
      binding.slots.set ⟨.credential, number⟩
        ⟨credential.handle.map .credential, credential.ownsHandle⟩ := by
  funext kind
  cases kind <;> simp [slots, Slots.set, List.map_set]

/-- A context that is replaced keeps its slot. -/
theorem slots_set_context (binding : Binding H) (number : ContextRef) (context : Context H) :
    slots { binding with contexts := binding.contexts.setIfInBounds number context } =
      binding.slots.set ⟨.context, number⟩ ⟨context.handle.map .context, true⟩ := by
  funext kind
  cases kind <;> simp [slots, Slots.set, List.map_set]

/-- The slot of an identity holds its handle, which is its own. -/
theorem slot?_identity (binding : Binding H) (number : IdentityRef) :
    binding.slots.slot? ⟨.identity, number⟩ =
      (binding.identities[number]?).map
        (fun identity => ⟨identity.handle.map .credential, true⟩) := by
  simp [Slots.slot?, slots]

/-- The slot of a credential holds its handle, and says whether it is the credential's own. -/
theorem slot?_credential (binding : Binding H) (number : CredentialRef) :
    binding.slots.slot? ⟨.credential, number⟩ =
      (binding.credentials[number]?).map
        (fun credential => ⟨credential.handle.map .credential, credential.ownsHandle⟩) := by
  simp [Slots.slot?, slots]

/-- The slot of a context holds its handle, which is its own. -/
theorem slot?_context (binding : Binding H) (number : ContextRef) :
    binding.slots.slot? ⟨.context, number⟩ =
      (binding.contexts[number]?).map (fun context => ⟨context.handle.map .context, true⟩) := by
  simp [Slots.slot?, slots]

/-! ## Adding items -/

/-- A part of the binding keeps a slot for the next item of a kind. -/
def Adds (work : Work H Nat) (kind : Kind) (slot : Slot H) : Prop :=
  ∀ before history outcome after, (work.start before).Path history (outcome, after) →
    history = [] ∧ outcome = .ok (before.slots kind).length ∧
      after.slots = before.slots.push kind slot ∧ after.availability = before.availability

/-- Adding an identity adds the slot that holds its handle. -/
theorem adds_identity (identity : Identity H.Credential) :
    Adds (addIdentity identity) .identity ⟨identity.handle.map .credential, true⟩ := by
  intro before history outcome after path
  obtain ⟨rfl, rfl, rfl⟩ := Procedure.path_pure path
  exact ⟨rfl, by simp [slots], slots_push_identity before identity, rfl⟩

/-- Adding a credential adds the slot that holds its handle. -/
theorem adds_credential (credential : Credential H) :
    Adds (addCredential credential) .credential
      ⟨credential.handle.map .credential, credential.ownsHandle⟩ := by
  intro before history outcome after path
  obtain ⟨rfl, rfl, rfl⟩ := Procedure.path_pure path
  exact ⟨rfl, by simp [slots], slots_push_credential before credential, rfl⟩

/-- Adding a context adds the slot that holds its handle. -/
theorem adds_context (context : Context H) :
    Adds (addContext context) .context ⟨context.handle.map .context, true⟩ := by
  intro before history outcome after path
  obtain ⟨rfl, rfl, rfl⟩ := Procedure.path_pure path
  exact ⟨rfl, by simp [slots], slots_push_context before context, rfl⟩

/-! ## Quiet operations -/

/-- To see whether the library is there is quiet. -/
theorem isQuiet_require (need : Need) : IsQuiet (require need : Work H Unit) := by
  refine isQuiet_get.bind ?_
  intro binding
  cases binding.availability.missing? with
  | none => exact isQuiet_pure ()
  | some detail => exact isQuiet_throw _

/-- Looking an entry up changes the registry at most. -/
theorem isQuiet_lookUp (name : String) : IsQuiet (lookUp name : Work H (Option Login.Entry)) := by
  intro before history outcome after path
  unfold lookUp at path
  rw [Procedure.start_get_bind] at path
  simp only [Procedure.start_set_bind] at path
  have rest : IsQuiet (do
      if before.registry.installs name then Procedure.log (.defaultEntryInstalled name)
      return (before.registry.lookUp name).1 : Work H (Option Login.Entry)) := by
    split
    · exact (isQuiet_log _).bind (fun _ => isQuiet_pure _)
    · exact isQuiet_pure _
  obtain ⟨acquired_eq, settled_eq, slots_eq, availability_eq⟩ := rest _ _ _ _ path
  exact ⟨acquired_eq, settled_eq, slots_eq, availability_eq⟩

/-- To choose a credential cache is quiet. -/
theorem isQuiet_cacheOf (entry : Login.Source) :
    IsQuiet (cacheOf entry : Work H CredentialStore) := by
  unfold cacheOf
  split
  · split <;> exact isQuiet_pure _
  · have fresh : IsQuiet (ask .freshText : Work H String) := isQuiet_ask rfl
    exact fresh.bind (fun _ => isQuiet_pure _)

/-- To ask for the principal of a credential is quiet. -/
theorem isQuiet_principalOf (credential : H.Credential) :
    IsQuiet (principalOf credential : Work H (Option Principal)) := by
  have named : IsQuiet (ask (.nameOf credential)) := isQuiet_ask rfl
  refine named.bind ?_
  intro known
  cases known with
  | none => exact isQuiet_pure none
  | some _ =>
    refine named.bind ?_
    intro name
    simp only
    split
    · exact (isQuiet_liftM _).bind (fun _ => isQuiet_pure _)
    · exact isQuiet_pure none

/-! ## Logging in -/

/-- A credential is released whether or not the library does so. -/
theorem givesBack_releaseQuietly (credential : H.Credential) :
    GivesBack (releaseQuietly credential) [.credential credential] := by
  refine GivesBack.guarded ?_ (fun error => isQuiet_note _)
  exact (givesBack_release credential).bind (fun _ => isQuiet_pure ())

/-- Whatever an entry decides on, its credential is the one handle that is obtained. -/
theorem obtains_credentialFor (entry : Login.Source) :
    Obtains (credentialFor entry : Work H (H.Credential × CredentialStore))
      (fun value => .credential value.1) := by
  unfold credentialFor
  extract_lets rest
  have obtains : ∀ name, Obtains (rest name) (fun value => .credential value.1) := by
    intro name
    unfold rest
    split
    · refine Obtains.after (isQuiet_cacheOf entry) ?_
      intro cache
      exact Obtains.map (fun credential => (credential, _)) (obtains_credential _ _ _)
    · refine Obtains.after isQuiet_get ?_
      intro binding
      extract_lets login
      have obtains : ∀ value, Obtains (login value) (fun value => .credential value.1) := by
        intro _
        refine Obtains.after (isQuiet_liftM _) ?_
        intro encoded
        refine Obtains.after (isQuiet_ask rfl) ?_
        intro ticket
        exact Obtains.map (fun credential => (credential, _)) (obtains_credentialOf ticket)
      split
      · exact Obtains.after (isQuiet_throw _) obtains
      · exact obtains ()
    · refine Obtains.after (isQuiet_cacheOf entry) ?_
      intro store
      exact Obtains.map (fun credential => (credential, _)) (obtains_credential _ _ _)
  split
  · exact Obtains.after (GivesBack.map some (isQuiet_ask rfl)) obtains
  · exact Obtains.after (isQuiet_pure none) obtains

/-- The principal that a reported name is read as; a name without a realm is no principal. -/
def principalIn (name : Option String) : Except Error (Option Principal) :=
  let text := name.getD ""
  if text.toList.contains '@' then some <$> Principal.parse text else .ok none

/-- The name of a credential is asked for last, and its principal is the one in the reply. -/
theorem path_principalOf {credential : H.Credential} {outcome : Except Error (Option Principal)}
    (path : ((principalOf credential).start before).Path history (outcome, after)) :
    ∃ reply, lastName? history = some reply ∧ outcome = reply.bind principalIn := by
  unfold principalOf at path
  rcases Procedure.path_bind path with
    ⟨error, asking, rfl⟩ | ⟨known, middle, earlier, later, rfl, asking, rest⟩
  · obtain ⟨rfl, _⟩ := Procedure.path_ask asking
    exact ⟨.error error, rfl, rfl⟩
  obtain ⟨rfl, _⟩ := Procedure.path_ask asking
  cases known with
  | none =>
    obtain ⟨rfl, rfl, _⟩ := Procedure.path_pure rest
    exact ⟨.ok none, rfl, rfl⟩
  | some first =>
  rcases Procedure.path_bind rest with
    ⟨error, asking, rfl⟩ | ⟨name, last, second, third, rfl, asking, reading⟩
  · obtain ⟨rfl, _⟩ := Procedure.path_ask asking
    exact ⟨.error error, rfl, rfl⟩
  obtain ⟨rfl, _⟩ := Procedure.path_ask asking
  -- from here on nothing is asked
  have read : third = [] ∧ outcome = principalIn name := by
    unfold principalIn
    simp only at reading ⊢
    split at reading
    · next separated =>
      rw [if_pos separated]
      cases parsed : Principal.parse (name.getD "") with
      | error error =>
        rw [parsed] at reading
        obtain ⟨nothing, same, _⟩ := Procedure.path_throw reading
        exact ⟨nothing, same⟩
      | ok principal =>
        rw [parsed] at reading
        obtain ⟨nothing, same, _⟩ := Procedure.path_pure reading
        exact ⟨nothing, same⟩
    · next unseparated =>
      rw [if_neg unseparated]
      obtain ⟨nothing, same, _⟩ := Procedure.path_pure reading
      exact ⟨nothing, same⟩
  obtain ⟨rfl, same⟩ := read
  exact ⟨.ok name, rfl, same⟩

/-- An orderly library lets the principal of a credential be found, or the mechanism fails. -/
theorem isA_mechanism_of_principalOf {credential : H.Credential} {error : Error}
    (path : ((principalOf credential).start before).Path history (.error error, after))
    (orderly : ∀ happening ∈ history, isOrderly happening = true) :
    error.isA .mechanism = true := by
  obtain ⟨reply, reported, raised⟩ := path_principalOf path
  obtain ⟨_, member⟩ := exists_mem_of_lastName? reported
  have expected := orderly _ member
  -- the last reply is a failure of the mechanism, or a name, which can be read
  cases reply with
  | error cause =>
    cases raised
    exact expected
  | ok name =>
    have raised : .error error = principalIn name := raised
    simp only [principalIn] at raised
    split at raised
    · next separated =>
      cases name with
      | none => cases separated
      | some text =>
        rw [Option.getD_some] at separated raised
        rw [isOrderly, separated, Bool.not_true, Bool.false_or] at expected
        cases read : Principal.parse text with
        | error _ =>
          rw [read] at expected
          cases expected
        | ok principal =>
          rw [read] at raised
          cases raised
    · cases raised

/-- The principal of a credential, which is released if the mechanism fails. -/
def principalOrRelease (credential : H.Credential) : Work H (Option Principal) :=
  onMechanismFailure (fun error => do
    releaseQuietly credential
    throw error) (principalOf credential)

/-- A credential whose name cannot be read is released if the mechanism fails. -/
theorem path_named {credential : H.Credential} {outcome : Except Error (Option Principal)}
    (path : ((principalOrRelease credential).start before).Path history (outcome, after)) :
    (∃ error, outcome = .error error ∧ Acts before history [] [.credential credential] after) ∨
      Acts before history [] [] after ∧
        ((∀ happening ∈ history, isOrderly happening = true) →
          ∃ principal, outcome = .ok principal) := by
  obtain ⟨result, middle, earlier, later, rfl, asking, answer⟩ := path_onMechanismFailure path
  have quiet := isQuiet_principalOf credential _ _ _ _ asking
  cases result with
  | ok principal =>
    obtain ⟨rfl, rfl, rfl⟩ := Procedure.path_pure answer
    rw [List.append_nil]
    exact .inr ⟨quiet, fun _ => ⟨principal, rfl⟩⟩
  | error cause =>
    cases failure : cause.isA .mechanism with
    | false =>
      simp only [answered, failure, Bool.false_eq_true, if_false] at answer
      refine .inr ⟨quiet.append (isQuiet_throw _ _ _ _ _ answer), ?_⟩
      intro orderly
      have expected := isA_mechanism_of_principalOf asking
        (fun happening member => orderly happening (List.mem_append_left _ member))
      rw [failure] at expected
      cases expected
    | true =>
      -- the credential is given back whether or not its release fails
      simp only [answered, failure, if_true] at answer
      have releases := givesBack_releaseQuietly credential
      rcases Procedure.path_bind answer with
        ⟨error, releasing, rfl⟩ | ⟨_, last, first, second, rfl, releasing, throwing⟩
      · exact .inl ⟨error, rfl, quiet.append (releases _ _ _ _ releasing)⟩
      · obtain ⟨rfl, rfl, rfl⟩ := Procedure.path_throw throwing
        rw [List.append_nil]
        exact .inl ⟨cause, rfl, quiet.append (releases _ _ _ _ releasing)⟩

/-- Either no credential is obtained, or one is and its principal is looked for. -/
theorem path_identityFor_cases {entry : Login.Source}
    {outcome : Except Error (Identity H.Credential)}
    (path : ((identityFor entry).start before).Path history (outcome, after)) :
    (∃ error, outcome = .error error ∧ Acts before history [] [] after ∧
        ((credentialFor entry).start before).Path history (.error error, after)) ∨
      ∃ credential store middle earlier later found, history = earlier ++ later ∧
        ((credentialFor entry).start before).Path earlier (.ok (credential, store), middle) ∧
        Acts before earlier [.credential credential] [] middle ∧
        ((principalOrRelease credential).start middle).Path later (found, after) ∧
        outcome = (fun principal =>
          { principal := principal, store := store, origin := .login, handle := some credential })
            <$> found := by
  unfold identityFor at path
  rcases Procedure.path_bind path with
    ⟨error, obtaining, rfl⟩ | ⟨⟨credential, store⟩, middle, earlier, later, rfl, obtaining, rest⟩
  · rcases obtains_credentialFor entry _ _ _ _ obtaining with
      ⟨_, _, acts⟩ | ⟨_, contradiction, _⟩
    · exact .inl ⟨error, rfl, acts, obtaining⟩
    · cases contradiction
  · rcases obtains_credentialFor entry _ _ _ _ obtaining with
      ⟨_, contradiction, _⟩ | ⟨_, same, acts⟩
    · cases contradiction
    cases same
    rcases Procedure.path_bind rest with
      ⟨error, naming, rfl⟩ | ⟨principal, last, first, second, rfl, naming, finish⟩
    · exact .inr ⟨credential, store, middle, earlier, later, _, rfl, obtaining, acts, naming, rfl⟩
    · obtain ⟨rfl, rfl, rfl⟩ := Procedure.path_pure finish
      rw [List.append_nil]
      exact .inr ⟨credential, store, middle, earlier, first, _, rfl, obtaining, acts, naming, rfl⟩

/-- What a login comes to: no handle, a handle without an identity, or an identity with its
handle. -/
inductive Identifies (before : Binding H) (history : List (Happening (library H)))
    (after : Binding H) : Except Error (Identity H.Credential) → Prop where
  | nothing (error : Error) (acts : Acts before history [] [] after) :
      Identifies before history after (.error error)
  | dropped (error : Error) (handle : Handle H) (given : List (Handle H))
      (atMost : given = [handle] ∨ given = [])
      (tidy : (∀ happening ∈ history, isOrderly happening = true) → given = [handle])
      (acts : Acts before history [handle] given after) :
      Identifies before history after (.error error)
  | identified (identity : Identity H.Credential) (credential : H.Credential)
      (holds : identity.handle = some credential)
      (acts : Acts before history [.credential credential] [] after) :
      Identifies before history after (.ok identity)

/-- An identity is brought about with the one handle that was acquired for it, or not at all. -/
theorem path_identityFor {entry : Login.Source}
    {outcome : Except Error (Identity H.Credential)}
    (path : ((identityFor entry).start before).Path history (outcome, after)) :
    Identifies before history after outcome := by
  rcases path_identityFor_cases path with
    ⟨error, rfl, acts, _⟩ |
      ⟨credential, store, middle, earlier, later, found, rfl, _, acts, naming, rfl⟩
  · exact .nothing error acts
  rcases path_named naming with ⟨error, rfl, named⟩ | ⟨named, succeeds⟩
  · exact .dropped error _ _ (.inl rfl) (fun _ => rfl) (acts.append named)
  cases found with
  | ok principal =>
    exact .identified _ credential rfl (acts.append named)
  | error error =>
    refine .dropped error _ _ (.inr rfl) ?_ (acts.append named)
    intro orderly
    obtain ⟨_, contradiction⟩ :=
      succeeds (fun happening member => orderly happening (List.mem_append_right _ member))
    cases contradiction

/-! ## The effect of every call -/

/-- A call takes a binding from one state to another with one of the effects listed for it. If the
library is orderly, a handle is acquired for an item or given back at once. -/
structure Takes (before : Binding H) (call : Call) (history : List (Happening (library H)))
    (outcome : Except Error (Option Item)) (after : Binding H) : Prop where
  effect : Effect before.slots call (acquired history) (settled history) outcome after.slots
  availability_eq : after.availability = before.availability
  tidy : (∀ happening ∈ history, isOrderly happening = true) → ∀ handle ∈ acquired history,
    (∃ item, outcome = .ok (some item)) ∨ handle ∈ settled history

/-- A quiet call has no effect. -/
theorem Acts.takes {call : Call} {outcome : Except Error (Option Item)}
    (acts : Acts before history [] [] after) (nothing : ∀ item, outcome ≠ .ok (some item))
    (empty : ∀ item, call = .giveUp item → before.slots.handle? item = none) :
    Takes before call history outcome after where
  effect := by
    rw [acts.acquired_eq, acts.settled_eq, acts.slots_eq]
    exact .keeps nothing empty
  availability_eq := acts.availability_eq
  tidy _ handle member := by
    rw [acts.acquired_eq] at member
    cases member

/-- A call that quietly fails has no effect, unless it is to give something up. -/
theorem Acts.fails {call : Call} {error : Error} (acts : Acts before history [] [] after)
    (other : ∀ item, call ≠ .giveUp item) : Takes before call history (.error error) after :=
  acts.takes (fun _ => nofun) (fun item same => absurd same (other item))

/-- Once a slot is emptied, what it owned is given back. -/
theorem GivesBack.takes {rest : Work H α} {item : Item} {handle : Handle H} {owns : Bool}
    {middle : Binding H} {outcome : Except Error α}
    (givesBack : GivesBack rest (if owns then [handle] else []))
    (held : before.slots.slot? item = some ⟨some handle, owns⟩)
    (slots_eq : middle.slots = before.slots.set item ⟨none, owns⟩)
    (availability_eq : middle.availability = before.availability)
    (path : (rest.start middle).Path history (outcome, after)) :
    Takes before (.giveUp item) history ((fun _ => none) <$> outcome) after := by
  have acts := givesBack _ _ _ _ path
  refine ⟨?_, acts.availability_eq.trans availability_eq, ?_⟩
  · rw [acts.acquired_eq, acts.settled_eq, acts.slots_eq, slots_eq]
    exact .givesUp item handle owns held (by cases outcome <;> exact fun _ => nofun)
  · intro _ handle member
    rw [acts.acquired_eq] at member
    cases member

/-- A new item comes with the handle that was acquired for it. -/
theorem Acts.hands_out {call : Call} {middle : Binding H} {kind : Kind} {handle : Handle H}
    {later : List (Happening (library H))} {event : MechanismEvent} {work : Work H Nat}
    {outcome : Except Error Nat} (acts : Acts before history [handle] [] middle)
    (adds : Adds work kind ⟨some handle, true⟩) (other : ∀ item, call ≠ .giveUp item)
    (path : ((note event >>= fun _ => work).start middle).Path later (outcome, after)) :
    Takes before call (history ++ later) ((fun number => some ⟨kind, number⟩) <$> outcome)
      after := by
  obtain ⟨_, rfl, adding⟩ := Procedure.path_log_bind path
  obtain ⟨rfl, rfl, slots_eq, availability_eq⟩ := adds _ _ _ _ adding
  have noted := acts.append (⟨rfl, rfl, rfl, rfl⟩ : Acts middle [.logged (.mechanism event)] [] []
    middle)
  refine ⟨?_, availability_eq.trans acts.availability_eq, fun _ _ _ => .inl ⟨_, rfl⟩⟩
  rw [noted.acquired_eq, noted.settled_eq, slots_eq, acts.slots_eq]
  exact .handsOut kind handle other

/-- When a login fails, what it had obtained stays obtained. -/
theorem path_guarded_identityFor {onFailure : Error → Work H (Identity H.Credential)}
    (raises : ∀ error, Raises (onFailure error)) {entry : Login.Source}
    {outcome : Except Error (Identity H.Credential)}
    (path : ((onMechanismFailure onFailure (identityFor entry)).start before).Path history
      (outcome, after)) :
    Identifies before history after outcome := by
  obtain ⟨result, middle, earlier, later, rfl, identifying, answer⟩ := path_onMechanismFailure path
  have identifies := path_identityFor identifying
  cases result with
  | ok identity =>
    obtain ⟨rfl, rfl, rfl⟩ := Procedure.path_pure answer
    rwa [List.append_nil]
  | error cause =>
    obtain ⟨error, rfl, acts⟩ := raises_answered raises cause _ _ _ _ answer
    cases identifies with
    | nothing _ nothing => exact .nothing error (nothing.append acts)
    | dropped _ handle given atMost tidy dropped =>
      have both := dropped.append acts
      rw [List.append_nil, List.append_nil] at both
      refine .dropped error handle given atMost ?_ both
      intro orderly
      exact tidy (fun happening member => orderly happening (List.mem_append_left _ member))

/-- A part that obtains a handle may hand it out with a new item. -/
theorem Obtains.hands_out {call : Call} {part : Work H α} {handle : α → Handle H}
    {ready : Binding H} {kind : Kind} {earlier : List (Happening (library H))}
    {event : MechanismEvent} {work : α → Work H Nat} {outcome : Except Error Nat}
    (obtains : Obtains part handle) (required : Acts before earlier [] [] ready)
    (adds : ∀ value, Adds (work value) kind ⟨some (handle value), true⟩)
    (other : ∀ item, call ≠ .giveUp item)
    (path : ((do
        let value ← part
        note event
        work value).start ready).Path history (outcome, after)) :
    Takes before call (earlier ++ history) ((fun number => some ⟨kind, number⟩) <$> outcome)
      after := by
  rcases Procedure.path_bind path with
    ⟨error, obtaining, rfl⟩ | ⟨value, middle, first, later, rfl, obtaining, rest⟩
  · rcases obtains _ _ _ _ obtaining with ⟨_, _, acts⟩ | ⟨_, contradiction, _⟩
    · exact (required.append acts).fails other
    · cases contradiction
  · rcases obtains _ _ _ _ obtaining with ⟨_, contradiction, _⟩ | ⟨_, same, acts⟩
    · cases contradiction
    · cases same
      rw [← List.append_assoc]
      exact (required.append acts).hands_out (adds value) other rest

/-- The entry to log in by, if it is known and the library is there. -/
def entryFor (configuration : String) : Work H Login.Entry := do
  match ← lookUp configuration with
  | none => throw (.unknownLogin configuration)
  | some entry =>
    require .identity
    return entry

/-- How a login answers the failure to bring an identity about. -/
def answerFailure (configuration : String) (error : Error) : Work H (Identity H.Credential) := do
  note (.loginFailed configuration error.message error.major error.minor)
  throw (.loginFailed error)

/-- Logs in by an entry. -/
def enterBy (configuration : String) (entry : Login.Entry) : Work H IdentityRef := do
  let identity ← onMechanismFailure (answerFailure configuration) (identityFor entry.toSource)
  note (.loggedIn configuration identity.principalText)
  addIdentity identity

/-- A login first finds its entry, and then logs in by it. -/
theorem login_eq (configuration : String) :
    (login configuration : Work H IdentityRef) =
      entryFor configuration >>= enterBy configuration := by
  unfold login entryFor
  rw [bind_assoc]
  congr 1
  funext entry
  cases entry with
  | none => rfl
  | some entry =>
    rw [bind_assoc]
    rfl

/-- To find the entry of a login is quiet. -/
theorem isQuiet_entryFor (configuration : String) :
    IsQuiet (entryFor configuration : Work H Login.Entry) := by
  refine GivesBack.bind (isQuiet_lookUp configuration) fun entry => ?_
  cases entry with
  | none => exact isQuiet_throw _
  | some entry => exact (isQuiet_require _).bind fun _ => isQuiet_pure entry

/-- A login hands out an identity with the handle acquired for it, or drops what it acquired. -/
theorem path_login {configuration : String} {outcome : Except Error IdentityRef}
    (path : ((login configuration).start before).Path history (outcome, after)) :
    Takes before (.login configuration) history
      ((fun number => some ⟨.identity, number⟩) <$> outcome) after := by
  have other : ∀ item, Call.login configuration ≠ .giveUp item := fun _ => nofun
  rw [login_eq] at path
  rcases Procedure.path_bind path with
    ⟨error, finding, rfl⟩ | ⟨entry, ready, first, later, rfl, finding, rest⟩
  · exact (isQuiet_entryFor _ _ _ _ _ finding).fails other
  have found := isQuiet_entryFor _ _ _ _ _ finding
  rcases Procedure.path_bind rest with
    ⟨error, identifying, rfl⟩ | ⟨identity, identified, second, later, rfl, identifying, rest⟩
  · cases path_guarded_identityFor (fun _ => raises_noted _ _) identifying with
    | nothing _ acts => exact (found.append acts).fails other
    | dropped _ handle given atMost tidy acts =>
      have all := found.append acts
      refine ⟨?_, all.availability_eq, ?_⟩
      · rw [all.acquired_eq, all.settled_eq, all.slots_eq]
        exact .drops configuration handle given error atMost
      · intro orderly other member
        have given_eq := tidy
          (fun happening member => orderly happening (List.mem_append_right _ member))
        rw [all.acquired_eq] at member
        rw [all.settled_eq, given_eq]
        exact .inr member
  · cases path_guarded_identityFor (fun _ => raises_noted _ _) identifying with
    | identified _ credential holds acts =>
      have adds := adds_identity identity
      rw [holds] at adds
      rw [← List.append_assoc]
      exact (found.append acts).hands_out adds other rest

/-- Acquiring a credential lends the handle of an identity that has one and no store, or acquires
one. -/
theorem path_acquireCredential {identity : IdentityRef} {mechanism : String}
    {outcome : Except Error CredentialRef}
    (path : ((acquireCredential identity mechanism).start before).Path history
      (outcome, after)) :
    Takes before (.acquireCredential identity mechanism) history
      ((fun number => some ⟨.credential, number⟩) <$> outcome) after := by
  have other : ∀ item, Call.acquireCredential identity mechanism ≠ .giveUp item := fun _ => nofun
  unfold acquireCredential at path
  rcases Procedure.path_bind path with
    ⟨error, requiring, rfl⟩ | ⟨_, ready, first, later, rfl, requiring, rest⟩
  · exact (isQuiet_require _ _ _ _ _ requiring).fails other
  have required := isQuiet_require _ _ _ _ _ requiring
  simp only [Procedure.start_get_bind] at rest
  -- an identity without a store lends its own handle, any other has one acquired for it
  split at rest
  · next handle held stored =>
    obtain ⟨rfl, rfl, slots_eq, availability_eq⟩ := adds_credential _ _ _ _ _ rest
    have lent : before.slots.handle? ⟨.identity, identity⟩ = some (.credential handle) := by
      rw [← required.slots_eq, Slots.handle?, slot?_identity]
      cases found : ready.identities[identity]? with
      | none => simp [found] at held
      | some known =>
        rw [found, Option.getD_some] at held
        simp [held]
    refine ⟨?_, availability_eq.trans required.availability_eq, fun _ _ _ => .inl ⟨_, rfl⟩⟩
    rw [List.append_nil, required.acquired_eq, required.settled_eq, slots_eq, required.slots_eq]
    exact .lends identity mechanism (.credential handle) lent
  · refine Obtains.hands_out (Obtains.guarded ?obtains (fun _ => raises_noted _ _)) required
      (fun handle => adds_credential ⟨some handle, true⟩) other rest
    split
    · exact Obtains.after (GivesBack.map some (isQuiet_ask rfl))
        (fun _ => obtains_credential _ _ _)
    · exact Obtains.after (isQuiet_pure none) (fun _ => obtains_credential _ _ _)

/-- Creating a context acquires one for it. -/
theorem path_createContext {flags : Flags} {peerName mechanism : String}
    {credential : Option CredentialRef} {outcome : Except Error ContextRef}
    (path : ((createContext flags peerName mechanism credential).start before).Path history
      (outcome, after)) :
    Takes before (.createContext flags peerName mechanism credential) history
      ((fun number => some ⟨.context, number⟩) <$> outcome) after := by
  have other : ∀ item, Call.createContext flags peerName mechanism credential ≠ .giveUp item :=
    fun _ => nofun
  unfold createContext at path
  rcases Procedure.path_bind path with
    ⟨error, requiring, rfl⟩ | ⟨_, ready, first, later, rfl, requiring, rest⟩
  · exact (isQuiet_require _ _ _ _ _ requiring).fails other
  · simp only [Procedure.start_get_bind] at rest
    refine Obtains.hands_out (Obtains.guarded ?obtains (fun _ => raises_noted _ _))
      (isQuiet_require _ _ _ _ _ requiring)
      (fun handle => adds_context { peerName := peerName, handle := some handle }) other rest
    exact Obtains.after (isQuiet_ask rfl) (fun _ => obtains_context _ _ _ _)

/-- A handshake step is quiet. -/
theorem isQuiet_step (number : ContextRef) (token : Option Token) :
    IsQuiet (step number token : Work H (Option Token)) := by
  intro before history outcome after path
  unfold step at path
  rw [Procedure.start_get_bind] at path
  cases found : before.contexts[number]? with
  | none =>
    simp only [found] at path
    exact isQuiet_throw _ _ _ _ _ path
  | some context =>
  cases held : context.handle with
  | none =>
    simp only [found, held] at path
    exact isQuiet_throw _ _ _ _ _ path
  | some handle =>
    simp only [found, held] at path
    have stepping : IsQuiet (onMechanismFailure (fun error => do
        note (.stepFailed context.peerName error.message error.major error.minor)
        throw (.stepFailed error)) (ask (.step handle (tokenToPass token)))) :=
      GivesBack.guarded (isQuiet_ask rfl)
        (fun _ => (isQuiet_note _).bind (fun _ => isQuiet_throw _))
    rcases Procedure.path_bind path with
      ⟨error, stepped, rfl⟩ | ⟨out, middle, first, later, rfl, stepped, rest⟩
    · exact stepping _ _ _ _ stepped
    rcases Procedure.path_bind rest with
      ⟨error, asked, rfl⟩ | ⟨complete, last, second, later, rfl, asked, rest⟩
    · exact (stepping _ _ _ _ stepped).append (isQuiet_ask rfl _ _ _ _ asked)
    have known := (stepping _ _ _ _ stepped).append (isQuiet_ask rfl _ _ _ _ asked)
    rw [Procedure.start_modify_bind] at rest
    have finish : IsQuiet (do
        note (.stepped complete out.isSome)
        return out : Work H (Option Token)) := (isQuiet_note _).bind (fun _ => isQuiet_pure _)
    obtain ⟨acquired_eq, settled_eq, slots_eq, availability_eq⟩ := finish _ _ _ _ rest
    -- the slot is written back with the handle that it had, so the slots are the same
    have kept : last.slots.slot? ⟨.context, number⟩ = some ⟨some (.context handle), true⟩ := by
      rw [known.slots_eq, slot?_context, found]
      simp [held]
    rw [slots_set_context, Option.map_some, Slots.set_eq_self kept] at slots_eq
    rw [← List.append_assoc]
    exact known.append ⟨acquired_eq, settled_eq, slots_eq, availability_eq⟩

/-- To give up an item whose slot is empty gives nothing back. -/
theorem takes_nothing {item : Item} {outcome : Except Error Unit} {middle : Binding H}
    (empty : before.slots.handle? item = none) (slots_eq : middle.slots = before.slots)
    (availability_eq : middle.availability = before.availability)
    (path : ((pure () : Work H Unit).start middle).Path history (outcome, after)) :
    Takes before (.giveUp item) history ((fun _ => none) <$> outcome) after := by
  obtain ⟨rfl, rfl, rfl⟩ := Procedure.path_pure path
  have acts : Acts before [] [] [] after := ⟨rfl, rfl, slots_eq, availability_eq⟩
  exact acts.takes (fun _ => nofun) (fun _ same => by cases same; exact empty)

/-- To give up an item that was never handed out gives nothing back. -/
theorem takes_nothing_of_unknown {item : Item} {outcome : Except Error Unit}
    (unknown : before.slots.slot? item = none)
    (path : ((pure () : Work H Unit).start before).Path history (outcome, after)) :
    Takes before (.giveUp item) history ((fun _ => none) <$> outcome) after := by
  refine takes_nothing ?_ rfl rfl path
  rw [Slots.handle?, unknown]
  rfl

/-- An item that was given up before is not given up again. -/
theorem takes_nothing_of_empty {item : Item} {owns : Bool} {outcome : Except Error Unit}
    {middle : Binding H} (known : before.slots.slot? item = some ⟨none, owns⟩)
    (slots_eq : middle.slots = before.slots.set item ⟨none, owns⟩)
    (availability_eq : middle.availability = before.availability)
    (path : ((pure () : Work H Unit).start middle).Path history (outcome, after)) :
    Takes before (.giveUp item) history ((fun _ => none) <$> outcome) after := by
  rw [Slots.set_eq_self known] at slots_eq
  refine takes_nothing ?_ slots_eq availability_eq path
  rw [Slots.handle?, known]
  rfl

/-- Logging out gives back the handle of the identity, unless that was done before. -/
theorem path_logout {number : IdentityRef} {outcome : Except Error Unit}
    (available : before.availability.isAvailable = true)
    (path : ((logout number).start before).Path history (outcome, after)) :
    Takes before (.giveUp ⟨.identity, number⟩) history ((fun _ => none) <$> outcome) after := by
  unfold logout at path
  rw [Procedure.start_get_bind] at path
  have slot_eq := before.slot?_identity number
  cases found : before.identities[number]? with
  | none =>
    rw [found] at slot_eq
    simp only [found] at path
    exact takes_nothing_of_unknown slot_eq path
  | some identity =>
    simp only [found, Procedure.start_set_bind] at path
    rw [found, Option.map_some] at slot_eq
    cases held : identity.handle with
    | none =>
      rw [held] at slot_eq
      simp only [held] at path
      exact takes_nothing_of_empty slot_eq (slots_set_identity _ _ _) (by rfl) path
    | some handle =>
      rw [held] at slot_eq
      simp only [held, available, if_true] at path
      refine GivesBack.takes ?_ slot_eq (slots_set_identity _ _ _) (by rfl) path
      exact ((givesBack_release handle).guarded (fun _ => isQuiet_throw _)).bind
        (fun _ => isQuiet_note _)

/-- Disposing of a credential gives back the handle that it owns, unless that was done before. -/
theorem path_disposeCredential {number : CredentialRef} {outcome : Except Error Unit}
    (path : ((disposeCredential number).start before).Path history (outcome, after)) :
    Takes before (.giveUp ⟨.credential, number⟩) history ((fun _ => none) <$> outcome) after := by
  unfold disposeCredential at path
  rw [Procedure.start_get_bind] at path
  have slot_eq := before.slot?_credential number
  cases found : before.credentials[number]? with
  | none =>
    rw [found] at slot_eq
    simp only [found] at path
    exact takes_nothing_of_unknown slot_eq path
  | some credential =>
    simp only [found, Procedure.start_set_bind] at path
    rw [found, Option.map_some] at slot_eq
    cases held : credential.handle with
    | none =>
      rw [held] at slot_eq
      simp only [held] at path
      exact takes_nothing_of_empty slot_eq (slots_set_credential _ _ _) (by rfl) path
    | some handle =>
      rw [held] at slot_eq
      simp only [held] at path
      refine GivesBack.takes ?_ slot_eq (slots_set_credential _ _ _) (by rfl) path
      split
      · exact ((givesBack_release handle).guarded (fun _ => isQuiet_throw _)).bind
          (fun _ => isQuiet_note _)
      · exact isQuiet_pure ()

/-- Disposing of a context deletes it, unless that was done before. -/
theorem path_disposeContext {number : ContextRef} {outcome : Except Error Unit}
    (path : ((disposeContext number).start before).Path history (outcome, after)) :
    Takes before (.giveUp ⟨.context, number⟩) history ((fun _ => none) <$> outcome) after := by
  unfold disposeContext at path
  rw [Procedure.start_get_bind] at path
  have slot_eq := before.slot?_context number
  cases found : before.contexts[number]? with
  | none =>
    rw [found] at slot_eq
    simp only [found] at path
    exact takes_nothing_of_unknown slot_eq path
  | some context =>
    simp only [found, Procedure.start_set_bind] at path
    rw [found, Option.map_some] at slot_eq
    cases held : context.handle with
    | none =>
      rw [held] at slot_eq
      simp only [held] at path
      exact takes_nothing_of_empty slot_eq (slots_set_context _ _ _) (by rfl) path
    | some handle =>
      rw [held] at slot_eq
      simp only [held] at path
      refine GivesBack.takes ?_ slot_eq (slots_set_context _ _ _) (by rfl) path
      exact ((givesBack_delete handle).guarded (fun _ => isQuiet_throw _)).bind
        (fun _ => isQuiet_note _)

/-- Every call has one of the effects listed for it. -/
theorem path_call {call : Call} {outcome : Except Error (Option Item)}
    (available : before.availability.isAvailable = true)
    (path : (call.work.start before).Path history (outcome, after)) :
    Takes before call history outcome after := by
  cases call with
  | login =>
    obtain ⟨_, rfl, working⟩ := Procedure.path_map path
    exact path_login working
  | acquireCredential =>
    obtain ⟨_, rfl, working⟩ := Procedure.path_map path
    exact path_acquireCredential working
  | createContext =>
    obtain ⟨_, rfl, working⟩ := Procedure.path_map path
    exact path_createContext working
  | step =>
    obtain ⟨result, rfl, working⟩ := Procedure.path_map path
    refine (isQuiet_step _ _ _ _ _ _ working).takes ?_ (fun _ => nofun)
    cases result <;> exact fun _ => nofun
  | giveUp item =>
    obtain ⟨_ | _ | _, number⟩ := item
    all_goals obtain ⟨_, rfl, working⟩ := Procedure.path_map path
    · exact path_logout available working
    · exact path_disposeCredential working
    · exact path_disposeContext working

end Binding

end SignOn.Gss
