import SignOn.Proofs.Gss.Failures
import SignOn.Proofs.Principal.Texts

/-!
# How logins end

A login is meant to end with an identity that holds the credential it acquired, or with an error of
failed logins once that credential has been given back (`EndsCleanly`). Where the library raises
failures of the mechanism only, there are two ways in which a login ends otherwise. The name that
the library reports of the credential is read last: if it is a realm with an `@` before it and
nothing else, the error is one of wrong values, and the credential is neither kept nor given back
(`LeavesBehind`). And a password that holds surrogates has no encoding: if a login comes to it, the
error says so and is none of failed logins, but nothing has been acquired (`BreaksOff`). Main
statement: in every other case a login ends cleanly (`login_ends_cleanly_iff`).
-/

set_option autoImplicit false

namespace SignOn.Gss

open Binding
open Dialogue (Happening)

variable {H : Handles} {α β : Type}

/-! ## What is seen of names -/

/-- A credential was acquired, and the last name reported of it is a realm with nothing before
it. -/
def NamesRealmOnly (history : List (Happening (library H))) : Prop :=
  acquired history ≠ [] ∧
    ∃ text, lastName? history = some (.ok (some text)) ∧ Principal.IsBareRealm text

/-! ## Clean endings -/

/-- What is read in a name that is reported: a principal, or none if there is no `@` in it. -/
structure IsReadAs (name : Option String) (principal : Option Principal) : Prop where
  nobody : '@' ∉ (name.getD "").toList → principal = none
  somebody : '@' ∈ (name.getD "").toList →
    principal.map .ok = some (Principal.parse (name.getD ""))

/-- A login ends cleanly: with an identity that holds the one credential acquired, for the principal
that is read in its last name, or with an error of failed logins, when just what was acquired has
been given back, all of it once. -/
inductive EndsCleanly (history : List (Happening (library H))) (after : Binding H) :
    Except Error IdentityRef → Prop where
  | entered {reference : IdentityRef} {identity : Identity H.Credential} {name : Option String}
      (credential : H.Credential) (present : after.identities[reference]? = some identity)
      (holds : identity.handle = some credential)
      (gained : acquired history = [.credential credential]) (kept : settled history = [])
      (reported : lastName? history = some (.ok name)) (read : IsReadAs name identity.principal) :
      EndsCleanly history after (.ok reference)
  | refused {error : Error} (kind : error.isA .identityAcquisition = true)
      (given : ∀ handle ∈ acquired history, IsSettledOnce handle history)
      (own : ∀ handle ∈ settled history, handle ∈ acquired history) :
      EndsCleanly history after (.error error)

/-- A login that fails with an error of failed logins ends cleanly if it gives back just what it
acquired. -/
theorem Binding.Acts.endsCleanly {before after : Binding H} {gained : List (Handle H)}
    {history : List (Happening (library H))} {error : Error}
    (acts : Acts before history gained gained after) (once : gained.Nodup)
    (kind : error.isA .identityAcquisition = true) : EndsCleanly history after (.error error) := by
  refine .refused kind ?_ ?_
  · intro handle member
    refine isSettledOnce_of_nodup ?_ ?_
    · rwa [acts.settled_eq]
    · rwa [acts.settled_eq, ← acts.acquired_eq]
  · intro handle member
    rwa [acts.acquired_eq, ← acts.settled_eq]

/-- What was not acquired is not misnamed. -/
theorem Binding.Acts.not_namesRealmOnly {before after : Binding H} {given : List (Handle H)}
    {history : List (Happening (library H))} (acts : Acts before history [] given after) :
    ¬ NamesRealmOnly history :=
  fun named => named.1 acts.acquired_eq

/-- A login whose credential was misnamed fails with an error of wrong values, and the credential is
neither kept nor given back. -/
structure LeavesBehind (history : List (Happening (library H)))
    (outcome : Except Error IdentityRef) : Prop where
  failed : outcome = .error .emptyPrincipalName
  gained : ∃ credential, acquired history = [.credential credential]
  kept : settled history = []

/-- A login comes to the password of its entry, which has no encoding. -/
structure StopsAtPassword (binding : Binding H) (configuration : String) (entry : Login.Entry)
    (history : List (Happening (library H))) : Prop where
  found : (binding.registry.lookUp configuration).1 = some entry
  cannot : CannotEncode entry.toSource binding.availability history

/-- A login whose password has no encoding fails with the error that says so. Nothing is acquired,
and nothing is given back. -/
structure BreaksOff (entry : Login.Source) (history : List (Happening (library H)))
    (outcome : Except Error IdentityRef) : Prop where
  failed : ∃ error, outcome = .error error ∧ IsEncodingError entry error
  gained : acquired history = []
  kept : settled history = []

/-- The error of a password that has no encoding is none of failed logins. -/
theorem IsEncodingError.isA_eq_false {entry : Login.Source} {error : Error}
    (names : IsEncodingError entry error) : error.isA .identityAcquisition = false := by
  obtain ⟨password, first, others, _, _, rfl⟩ := names
  rfl

namespace Binding

variable {before after : Binding H} {history : List (Happening (library H))}

/-! ## Names -/

/-- A name is read as a principal or as none, unless it is a realm with nothing before it. -/
theorem principalIn_cases (name : Option String) :
    (∃ text, name = some text ∧ Principal.IsBareRealm text ∧
        principalIn name = .error .emptyPrincipalName) ∨
      (∀ text, name = some text → ¬ Principal.IsBareRealm text) ∧
        ∃ principal, principalIn name = .ok principal ∧ IsReadAs name principal := by
  by_cases separated : '@' ∈ (name.getD "").toList
  · cases name with
    | none => cases separated
    | some text =>
      have separated : '@' ∈ text.toList := separated
      have read : principalIn (some text) = some <$> Principal.parse text := by
        simp [principalIn, separated]
      rcases Principal.parse_cases separated with ⟨bare, misread⟩ | ⟨named, principal, parsed⟩
      · exact .inl ⟨text, rfl, bare, by rw [read, misread]; rfl⟩
      · refine .inr ⟨?_, some principal, by rw [read, parsed]; rfl, absurd separated, ?_⟩
        · rintro _ ⟨⟩
          exact named
        · exact fun _ => congrArg some parsed.symm
  · refine .inr ⟨?_, none, by simp [principalIn, separated], fun _ => rfl, flip absurd separated⟩
    rintro text rfl ⟨realm, _, rfl⟩
    simp at separated

/-- A credential is released without an error, if the library raises failures of the mechanism
only. -/
theorem path_releaseQuietly {credential : H.Credential} {outcome : Except Error Unit}
    (path : ((releaseQuietly credential).start before).Path history (outcome, after))
    (mechanical : ∀ happening ∈ history, failsAsMechanism happening = true) :
    outcome = .ok () ∧ lastName? history = none := by
  obtain ⟨result, middle, earlier, later, rfl, releasing, answer⟩ := path_onMechanismFailure path
  rcases Procedure.path_bind releasing with
    ⟨error, asking, rfl⟩ | ⟨_, _, _, _, rfl, asking, rest⟩
  · obtain ⟨rfl, _⟩ := Procedure.path_ask asking
    have failure : error.isA .mechanism = true := mechanical _ List.mem_cons_self
    simp only [answered, failure, if_true] at answer
    obtain ⟨rfl, rfl, _⟩ := Procedure.path_log answer
    exact ⟨rfl, rfl⟩
  · obtain ⟨rfl, _⟩ := Procedure.path_ask asking
    obtain ⟨rfl, rfl, _⟩ := Procedure.path_pure rest
    obtain ⟨rfl, rfl, _⟩ := Procedure.path_pure answer
    exact ⟨rfl, rfl⟩

/-- What becomes of a credential that is asked for its name: it is given back if the mechanism
fails, and only then. -/
inductive Reads (before : Binding H) (credential : H.Credential)
    (history : List (Happening (library H))) (after : Binding H) :
    Except Error (Option Principal) → Prop where
  | unnamed (error : Error) (failure : IsMechanism error)
      (reported : lastName? history = some (.error error))
      (acts : Acts before history [] [.credential credential] after) :
      Reads before credential history after (.error error)
  | named {outcome : Except Error (Option Principal)} (name : Option String)
      (reported : lastName? history = some (.ok name)) (read : principalIn name = outcome)
      (acts : Acts before history [] [] after) : Reads before credential history after outcome

/-- A credential that is asked for its name ends as `Reads` says. -/
theorem path_reads {credential : H.Credential} {outcome : Except Error (Option Principal)}
    (path : ((principalOrRelease credential).start before).Path history (outcome, after))
    (mechanical : ∀ happening ∈ history, failsAsMechanism happening = true) :
    Reads before credential history after outcome := by
  obtain ⟨result, middle, earlier, later, rfl, asking, answer⟩ := path_onMechanismFailure path
  have quiet := isQuiet_principalOf credential _ _ _ _ asking
  rw [List.forall_mem_append] at mechanical
  obtain ⟨reply, reported, rfl⟩ := path_principalOf asking
  cases reply with
  | error error =>
    obtain ⟨_, member⟩ := exists_mem_of_lastName? reported
    have failure : error.isA .mechanism = true := mechanical.1 _ member
    simp only [Except.bind, answered, failure, if_true] at answer
    have releases := givesBack_releaseQuietly credential
    rcases Procedure.path_bind answer with
      ⟨_, releasing, _⟩ | ⟨_, last, first, second, rfl, releasing, throwing⟩
    · cases (path_releaseQuietly releasing mechanical.2).1
    · obtain ⟨rfl, rfl, rfl⟩ := Procedure.path_throw throwing
      rw [List.append_nil] at mechanical ⊢
      have unnamed := (path_releaseQuietly releasing mechanical.2).2
      exact .unnamed error failure (by rw [lastName?_append, unnamed, reported]; rfl)
        (quiet.append (releases _ _ _ _ releasing))
  | ok name =>
    have finish : later = [] ∧ outcome = principalIn name ∧ after = middle := by
      rcases principalIn_cases name with ⟨_, _, _, misread⟩ | ⟨_, principal, read, _⟩
      · simp only [Except.bind, misread] at answer ⊢
        exact Procedure.path_throw answer
      · simp only [Except.bind, read] at answer ⊢
        exact Procedure.path_pure answer
    obtain ⟨rfl, rfl, rfl⟩ := finish
    rw [List.append_nil]
    exact .named name reported rfl quiet

/-! ## Identities -/

/-- What becomes of an identity that is looked for. If there is none, what was acquired for it is
given back, unless its name is a realm with nothing before it. -/
inductive Brings (refusal : Error → Prop) (before : Binding H)
    (history : List (Happening (library H))) (after : Binding H) :
    Except Error (Identity H.Credential) → Prop where
  | unobtained (error : Error) (refused : refusal error) (acts : Acts before history [] [] after) :
      Brings refusal before history after (.error error)
  | unnamed (error cause : Error) (credential : H.Credential) (refused : refusal error)
      (reported : lastName? history = some (.error cause))
      (acts : Acts before history [.credential credential] [.credential credential] after) :
      Brings refusal before history after (.error error)
  | misnamed (credential : H.Credential) (text : String)
      (reported : lastName? history = some (.ok (some text))) (bare : Principal.IsBareRealm text)
      (acts : Acts before history [.credential credential] [] after) :
      Brings refusal before history after (.error .emptyPrincipalName)
  | identified (identity : Identity H.Credential) (credential : H.Credential) (name : Option String)
      (holds : identity.handle = some credential)
      (reported : lastName? history = some (.ok name))
      (named : ∀ text, name = some text → ¬ Principal.IsBareRealm text)
      (read : IsReadAs name identity.principal)
      (acts : Acts before history [.credential credential] [] after) :
      Brings refusal before history after (.ok identity)

/-- What becomes of an identity whose password has no encoding: nothing is acquired for it. -/
structure Unencoded (entry : Login.Source) (before : Binding H)
    (history : List (Happening (library H))) (after : Binding H) (error : Error) : Prop where
  cannot : CannotEncode entry before.availability history
  names : IsEncodingError entry error
  acts : Acts before history [] [] after

/-- An identity is not looked for any further if the password of its entry has no encoding. In any
other case it is brought about, misnamed or refused. -/
theorem path_brings {entry : Login.Source} {outcome : Except Error (Identity H.Credential)}
    (path : ((identityFor entry).start before).Path history (outcome, after))
    (mechanical : ∀ happening ∈ history, failsAsMechanism happening = true) :
    (∃ error, outcome = .error error ∧ Unencoded entry before history after error) ∨
      ¬ CannotEncode entry before.availability history ∧
        Brings IsRefusal before history after outcome := by
  rcases path_identityFor_cases path with
    ⟨error, rfl, acts, obtaining⟩ |
      ⟨credential, store, middle, earlier, later, found, rfl, obtaining, acts, naming, rfl⟩
  · cases path_credentialFor_ends obtaining mechanical with
    | unencodable cannot names => exact .inl ⟨error, rfl, cannot, names, acts⟩
    | otherwise can raises => exact .inr ⟨can, .unobtained error (raises error rfl) acts⟩
  rw [List.forall_mem_append] at mechanical
  cases path_credentialFor_ends obtaining mechanical.1 with
  | otherwise can _ =>
  refine .inr ⟨fun cannot => can cannot.of_append, ?_⟩
  cases path_reads naming mechanical.2 with
  | unnamed error failure reported named =>
    exact .unnamed error error credential (.mechanism failure) (by simp [reported])
      (acts.append named)
  | named name reported read named =>
    rcases principalIn_cases name with
      ⟨text, rfl, bare, misread⟩ | ⟨unbare, principal, same, isRead⟩
    · rw [← read, misread]
      exact .misnamed credential text (by simp [reported]) bare (acts.append named)
    · rw [← read, same]
      exact .identified _ credential name rfl (by simp [reported]) unbare isRead
        (acts.append named)

/-- A refusal becomes an error of failed logins, if it is not one already. -/
theorem path_answered_failure {configuration : String} {error : Error}
    {outcome : Except Error (Identity H.Credential)} (reason : IsRefusal error)
    (path : ((answered (answerFailure configuration) (.error error)).start before).Path history
      (outcome, after)) :
    ∃ raised, outcome = .error raised ∧ raised.isA .identityAcquisition = true ∧
      Acts before history [] [] after ∧ lastName? history = none := by
  cases reason with
  | mechanism failure =>
    have failure : error.isA .mechanism = true := failure
    simp only [answered, failure, if_true] at path
    obtain ⟨_, rfl, throwing⟩ := Procedure.path_log_bind path
    obtain ⟨rfl, rfl, rfl⟩ := Procedure.path_throw throwing
    exact ⟨_, rfl, rfl, ⟨rfl, rfl, rfl, rfl⟩, rfl⟩
  | passwordUnsupported =>
    obtain ⟨rfl, rfl, rfl⟩ := Procedure.path_throw path
    exact ⟨_, rfl, rfl, .refl _, rfl⟩

/-- A login answers a refusal by an error of failed logins, and lets every other error go on. -/
theorem path_guarded_brings {configuration : String} {entry : Login.Source}
    {outcome : Except Error (Identity H.Credential)}
    (path : ((onMechanismFailure (answerFailure configuration) (identityFor entry)).start
      before).Path history (outcome, after))
    (mechanical : ∀ happening ∈ history, failsAsMechanism happening = true) :
    (∃ error, outcome = .error error ∧ Unencoded entry before history after error) ∨
      ¬ CannotEncode entry before.availability history ∧
        Brings (fun error => error.isA .identityAcquisition = true) before history after
          outcome := by
  obtain ⟨result, middle, earlier, later, rfl, identifying, answer⟩ := path_onMechanismFailure path
  rw [List.forall_mem_append] at mechanical
  rcases path_brings identifying mechanical.1 with ⟨error, rfl, unencoded⟩ | ⟨can, brings⟩
  · have names := unencoded.names
    obtain ⟨password, first, others, _, _, rfl⟩ := names
    obtain ⟨rfl, rfl, rfl⟩ := Procedure.path_throw answer
    rw [List.append_nil]
    exact .inl ⟨_, rfl, unencoded⟩
  refine .inr ⟨fun cannot => can cannot.of_append, ?_⟩
  cases brings with
  | unobtained error reason acts =>
    obtain ⟨raised, rfl, kind, others, _⟩ := path_answered_failure reason answer
    exact .unobtained raised kind (acts.append others)
  | unnamed error cause credential reason reported acts =>
    obtain ⟨raised, rfl, kind, others, silent⟩ := path_answered_failure reason answer
    exact .unnamed raised cause credential kind (by simp [silent, reported]) (acts.append others)
  | misnamed credential text reported bare acts =>
    obtain ⟨rfl, rfl, rfl⟩ := Procedure.path_throw answer
    rw [List.append_nil]
    exact .misnamed credential text reported bare acts
  | identified identity credential name holds reported named read acts =>
    obtain ⟨rfl, rfl, rfl⟩ := Procedure.path_pure answer
    rw [List.append_nil]
    exact .identified identity credential name holds reported named read acts

/-! ## Logins -/

/-- An identity that is added is the one under its number. -/
theorem path_addIdentity {identity : Identity H.Credential} {outcome : Except Error IdentityRef}
    (path : ((addIdentity identity).start before).Path history (outcome, after)) :
    ∃ reference, outcome = .ok reference ∧ history = [] ∧
      after.identities[reference]? = some identity := by
  obtain ⟨rfl, rfl, rfl⟩ := Procedure.path_pure path
  exact ⟨_, rfl, rfl, by simp⟩

/-- A login whose entry is not found, or cannot be used, does not come to a password. -/
theorem not_stopsAtPassword_of_entryFor {configuration : String} {entry : Login.Entry}
    {error : Error}
    (finding : ((entryFor configuration).start before).Path history (.error error, after))
    (mechanical : ∀ happening ∈ history, failsAsMechanism happening = true) :
    ¬ StopsAtPassword before configuration entry history := by
  intro stops
  obtain ⟨detail, missing⟩ := path_entryFor_error stops.found finding mechanical
  have known := stops.cannot.known
  cases availability : before.availability with
  | available => simp [availability, Availability.missing?] at missing
  | notInstalled | broken => simp [availability, Availability.hasPasswordLogins] at known

/-- What follows the finding of an entry comes to a password if the login does. -/
theorem cannotEncode_of_found {ready : Binding H} {configuration : String}
    {entry used : Login.Entry} {first second : List (Happening (library H))}
    (stops : StopsAtPassword before configuration entry (first ++ second))
    (finding : ((entryFor configuration).start before).Path first (.ok used, ready)) :
    CannotEncode used.toSource ready.availability second := by
  have same : ready.availability = before.availability :=
    (isQuiet_entryFor _ _ _ _ _ finding).availability_eq
  obtain rfl : entry = used := Option.some.inj (stops.found.symm.trans (path_entryFor finding))
  rw [same]
  exact { stops.cannot with answered := (allAnswered_append_iff.mp stops.cannot.answered).2 }

/-- A login that comes to a password without an encoding breaks off. -/
theorem Unencoded.breaksOff {ready : Binding H} {configuration : String} {entry : Login.Entry}
    {error : Error} {first second : List (Happening (library H))}
    (unencoded : Unencoded entry.toSource ready second after error)
    (finding : ((entryFor configuration).start before).Path first (.ok entry, ready)) :
    StopsAtPassword before configuration entry (first ++ second) ∧
      BreaksOff entry.toSource (first ++ second) (.error error) := by
  have found := isQuiet_entryFor _ _ _ _ _ finding
  have all := found.append unencoded.acts
  refine ⟨⟨path_entryFor finding, ?_⟩,
    ⟨error, rfl, unencoded.names⟩, all.acquired_eq, all.settled_eq⟩
  rw [← found.availability_eq]
  exact {
    unencoded.cannot with
    answered := allAnswered_append_iff.mpr
      ⟨allAnswered_entryFor finding, unencoded.cannot.answered⟩ }

/-- How a login ends: as it is meant to, or at a misnamed credential, or at a password that has no
encoding. -/
inductive LoginEnds (before : Binding H) (configuration : String)
    (history : List (Happening (library H))) (after : Binding H)
    (outcome : Except Error IdentityRef) : Prop where
  | cleanly (clean : EndsCleanly history after outcome) (named : ¬ NamesRealmOnly history)
      (goes : ∀ entry, ¬ StopsAtPassword before configuration entry history)
  | misnamed (leaves : LeavesBehind history outcome) (misnamed : NamesRealmOnly history)
      (goes : ∀ entry, ¬ StopsAtPassword before configuration entry history)
  | unencoded (entry : Login.Entry) (stops : StopsAtPassword before configuration entry history)
      (breaks : BreaksOff entry.toSource history outcome)

/-- A login for which no identity was brought about ends cleanly or at a misnamed credential. -/
theorem Brings.loginEnds_error {ready : Binding H} {configuration : String} {error : Error}
    {first second : List (Happening (library H))}
    (brings : Brings (fun error => error.isA .identityAcquisition = true) ready second after
      (.error error))
    (found : Acts before first [] [] ready)
    (goes : ∀ entry, ¬ StopsAtPassword before configuration entry (first ++ second)) :
    LoginEnds before configuration (first ++ second) after (.error error) := by
  cases brings with
  | unobtained _ kind acts =>
    have all := found.append acts
    exact .cleanly (all.endsCleanly List.nodup_nil kind) all.not_namesRealmOnly goes
  | unnamed _ cause credential kind reported acts =>
    have all := found.append acts
    refine .cleanly (all.endsCleanly (by simp) kind) ?_ goes
    rintro ⟨_, text, named, _⟩
    simp [reported] at named
  | misnamed credential text reported bare acts =>
    have all := found.append acts
    refine .misnamed ⟨rfl, ⟨credential, all.acquired_eq⟩, all.settled_eq⟩ ⟨?_, text, ?_, bare⟩ goes
    · rw [all.acquired_eq]
      exact List.cons_ne_nil _ _
    · simp [reported]

/-- A login for which an identity was brought about ends cleanly once that is added and the event
is logged. -/
theorem Brings.loginEnds_ok {ready identified : Binding H} {configuration : String}
    {identity : Identity H.Credential} {reference : IdentityRef} {event : LogEvent}
    {first second : List (Happening (library H))} {refusal : Error → Prop}
    (brings : Brings refusal ready second identified (.ok identity))
    (found : Acts before first [] [] ready)
    (present : after.identities[reference]? = some identity)
    (goes : ∀ entry, ¬ StopsAtPassword before configuration entry
      (first ++ (second ++ [.logged event]))) :
    LoginEnds before configuration (first ++ (second ++ [.logged event])) after
      (.ok reference) := by
  cases brings with
  | identified _ credential name holds reported named read acts =>
    have all := found.append acts
    have last : lastName? (first ++ (second ++ [.logged event])) = some (.ok name) := by
      rw [lastName?_append, lastName?_append, reported]
      rfl
    have unnamed : ¬ NamesRealmOnly (first ++ (second ++ [.logged event])) := by
      rintro ⟨_, text, misnamed, bare⟩
      rw [last] at misnamed
      cases misnamed
      exact named text rfl bare
    refine .cleanly (.entered credential present holds ?_ ?_ last read) unnamed goes
    · rw [← List.append_assoc, acquired_append, all.acquired_eq]
      rfl
    · rw [← List.append_assoc, settled_append, all.settled_eq]
      rfl

/-- If the library raises failures of the mechanism only, every path through a login ends in one of
the three ways. -/
theorem path_login_ends {configuration : String} {outcome : Except Error IdentityRef}
    (path : ((login configuration).start before).Path history (outcome, after))
    (mechanical : ∀ happening ∈ history, failsAsMechanism happening = true) :
    LoginEnds before configuration history after outcome := by
  rw [login_eq] at path
  -- the login goes through its parts: the entry, the identity and its place in the binding
  rcases Procedure.path_bind path with
    ⟨error, finding, rfl⟩ | ⟨entry, ready, first, later, rfl, finding, rest⟩
  · have acts := isQuiet_entryFor _ _ _ _ _ finding
    have kind := raisesOnly_entryFor _ _ _ _ _ finding mechanical
    exact .cleanly (acts.endsCleanly List.nodup_nil kind) acts.not_namesRealmOnly
      fun _ => not_stopsAtPassword_of_entryFor finding mechanical
  have found := isQuiet_entryFor _ _ _ _ _ finding
  rw [List.forall_mem_append] at mechanical
  rcases Procedure.path_bind rest with
    ⟨error, identifying, rfl⟩ | ⟨identity, identified, second, later, rfl, identifying, rest⟩
  · rcases path_guarded_brings identifying mechanical.2 with
      ⟨_, same, unencoded⟩ | ⟨can, brings⟩
    · cases same
      obtain ⟨stops, breaks⟩ := unencoded.breaksOff finding
      exact .unencoded entry stops breaks
    · exact brings.loginEnds_error found
        fun _ stops => can (cannotEncode_of_found stops finding)
  · obtain ⟨_, rfl, adding⟩ := Procedure.path_log_bind rest
    obtain ⟨reference, rfl, rfl, present⟩ := path_addIdentity adding
    rw [List.forall_mem_append] at mechanical
    rcases path_guarded_brings identifying mechanical.2.1 with ⟨_, same, _⟩ | ⟨can, brings⟩
    · cases same
    · exact brings.loginEnds_ok found present
        fun _ stops => can (cannotEncode_of_found stops finding).of_append

end Binding

/-- A login ends cleanly, whatever the library does, as long as it raises failures of the mechanism
only, unless one of two things happens. The last name that is reported of the credential may be a
realm with an `@` before it and nothing else: then the login fails with an error of wrong values and
leaves the credential behind. Or the login comes to a password that has no encoding: then it fails
with the error that says so, and nothing was acquired. -/
theorem login_ends_cleanly_iff {σ : Type} (answer : Dialogue.Answerer (library H) σ)
    (binding : Binding H) (configuration : String) (state : σ)
    (mechanical : ∀ happening ∈
      (((Binding.login configuration).start binding).run answer state).history,
        failsAsMechanism happening = true) :
    let run := ((Binding.login configuration).start binding).run answer state
    (EndsCleanly run.history run.value.2 run.value.1 ↔ ¬ NamesRealmOnly run.history ∧
        ∀ entry, ¬ StopsAtPassword binding configuration entry run.history) ∧
      (NamesRealmOnly run.history → LeavesBehind run.history run.value.1) ∧
      ∀ entry, StopsAtPassword binding configuration entry run.history →
        BreaksOff entry.toSource run.history run.value.1 := by
  intro run
  have path := Dialogue.run_path answer ((Binding.login configuration).start binding) state
  -- the three ends exclude each other: by their errors, and by whether anything was acquired
  cases Binding.path_login_ends path mechanical with
  | cleanly clean named goes =>
    exact ⟨iff_of_true clean ⟨named, goes⟩, fun misnamed => absurd misnamed named,
      fun entry stops => absurd stops (goes entry)⟩
  | misnamed leaves misnamed goes =>
    refine ⟨iff_of_false ?_ (fun ends => ends.1 misnamed), fun _ => leaves,
      fun entry stops => absurd stops (goes entry)⟩
    intro clean
    have ends : EndsCleanly run.history run.value.2 (.error .emptyPrincipalName) :=
      leaves.failed ▸ clean
    cases ends with
    | refused kind => cases kind
  | unencoded entry stops breaks =>
    refine ⟨iff_of_false ?_ (fun ends => ends.2 entry stops), ?_, ?_⟩
    · intro clean
      obtain ⟨error, failed, names⟩ := breaks.failed
      have ends : EndsCleanly run.history run.value.2 (.error error) := failed ▸ clean
      cases ends with
      | refused kind => exact absurd kind (by simp [names.isA_eq_false])
    · exact fun misnamed => absurd breaks.gained misnamed.1
    · intro other same
      obtain rfl : entry = other := Option.some.inj (stops.found.symm.trans same.found)
      exact breaks

/-- A library that neither names credentials nor releases them. -/
def unhelpful : Simulation.Library where
  failures :=
    [{ kind := .nameOf, error := Simulation.failure .mechanism "credential expired" },
      { kind := .release, error := Simulation.failure .mechanism "no such credential" }]

/-- The credential is given back, although that fails, and the login fails as logins do. -/
theorem unhelpful_login_ends_cleanly :
    let run := ((Binding.login defaultLogin).start (opened {} false)).run
      Simulation.Library.answer unhelpful
    EndsCleanly run.history run.value.2 run.value.1 ∧
      run.value.1 =
        .error (.loginFailed (Simulation.failure .mechanism "credential expired")) ∧
      settled run.history = [.credential ⟨"cred1", "app@EXAMPLE.COM"⟩] := by
  intro run
  have mechanical : ∀ happening ∈ run.history, failsAsMechanism happening = true := by
    decide +kernel
  have unnamed : ¬ NamesRealmOnly run.history := by
    have last : lastName? run.history =
        some (.error (Simulation.failure .mechanism "credential expired")) := by
      rfl
    rintro ⟨_, text, named, _⟩
    rw [last] at named
    cases named
  have goes : ∀ entry, ¬ StopsAtPassword (opened {} false) defaultLogin entry run.history := by
    intro entry stops
    cases stops.cannot.known
  have clean := (login_ends_cleanly_iff Simulation.Library.answer (opened {} false) defaultLogin
    unhelpful mechanical).1.mpr ⟨unnamed, goes⟩
  exact ⟨clean, rfl, rfl⟩

/-- A library that reports of every credential a realm with nothing before it. -/
def realmOnly : Simulation.Library where
  reportedName := some (some "@EXAMPLE.COM")

/-- The login fails with an error of wrong values, and the credential is not given back. -/
theorem realmOnly_login_leaves_behind :
    let run := ((Binding.login defaultLogin).start (opened {} false)).run
      Simulation.Library.answer realmOnly
    (∀ happening ∈ run.history, failsAsMechanism happening = true) ∧
      run.value.1 = .error .emptyPrincipalName ∧
      acquired run.history = [.credential ⟨"cred1", "app@EXAMPLE.COM"⟩] ∧
      settled run.history = [] ∧
      ¬ EndsCleanly run.history run.value.2 run.value.1 := by
  intro run
  have failed : run.value.1 = .error .emptyPrincipalName := by rfl
  refine ⟨by decide +kernel, failed, rfl, rfl, ?_⟩
  rw [failed]
  intro clean
  cases clean with
  | refused kind => cases kind

/-! A password of a letter and a surrogate has no encoding, and the login by its entry ends
there. -/

example :
    let entry : Login.Entry := {
      principal := some "app@EXAMPLE.COM"
      password := some "p"
      surrogates := [{ code := 0xD800, isSurrogate := by decide }]
      namesPrincipal := fun _ => rfl
      hasOrigin := .inr (.inl rfl) }
    let binding := opened (({} : Login.Registry).register "app" entry) true
    let run := ((Binding.login "app").start binding).run Simulation.Library.answer {}
    run.value.1 = .error (.unencodablePassword 0xD800 1 1) ∧ acquired run.history = [] :=
  ⟨rfl, rfl⟩

end SignOn.Gss
