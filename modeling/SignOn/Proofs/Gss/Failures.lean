import SignOn.Proofs.Dialogue.Confined
import SignOn.Proofs.Gss.Ownership

/-!
# What the parts of a login fail with

A login looks its entry up, acquires a credential and reads its name. Where the library raises
failures of the mechanism only, each part fails with few kinds of errors (`Binding.RaisesOnly`). One
of them has nothing to do with the library: a password that holds surrogates has no encoding, and a
login that comes to such a password ends there (`CannotEncode`). Main statement: so ends the attempt
to obtain the credential of an entry, or else its errors are refusals, which are failures of the
mechanism or password logins that it does not support (`Binding.path_credentialFor_ends`).
-/

set_option autoImplicit false

namespace SignOn.Gss

open Binding
open Dialogue (Happening)

variable {H : Handles} {α β : Type}

/-- The library raises failures of the mechanism only. -/
def failsAsMechanism : Happening (library H) → Bool
  | .asked _ (.error error) => error.isA .mechanism
  | _ => true

/-- No request fails. -/
def AllAnswered (history : List (Happening (library H))) : Prop :=
  ∀ request error, .asked request (.error error) ∉ history

/-- A sequence is answered throughout if both of its parts are. -/
theorem allAnswered_append_iff {earlier later : List (Happening (library H))} :
    AllAnswered (earlier ++ later) ↔ AllAnswered earlier ∧ AllAnswered later := by
  simp only [AllAnswered, List.mem_append, not_or, forall_and]

/-- A login by an entry comes to a password that has no encoding: the library knows password logins,
the entry says no keytab, its password holds surrogates, and no request fails. -/
structure CannotEncode (entry : Login.Source) (availability : Availability)
    (history : List (Happening (library H))) : Prop where
  known : availability.hasPasswordLogins = true
  unsaid : saying? entry.keytab = none
  given : entry.password.isSome = true
  surrogates : entry.surrogates ≠ []
  answered : AllAnswered history

/-- A login that cannot encode a password has come to it already. -/
theorem CannotEncode.of_append {entry : Login.Source} {availability : Availability}
    {earlier later : List (Happening (library H))}
    (cannot : CannotEncode entry availability (earlier ++ later)) :
    CannotEncode entry availability earlier :=
  { cannot with answered := (allAnswered_append_iff.mp cannot.answered).1 }

/-- The error of an entry whose password has no encoding. -/
def IsEncodingError (entry : Login.Source) (error : Error) : Prop :=
  ∃ password first others, entry.password = some password ∧ entry.surrogates = first :: others ∧
    error = .unencodablePassword first.code password.length
      (Login.Surrogate.inRow (first :: others))

/-- An encoding is refused for surrogates only, with the error that names them. -/
theorem isEncodingError_of_encode {entry : Login.Source} {password : String} {error : Error}
    (given : entry.password = some password)
    (refused : Login.encode password entry.surrogates = .error error) :
    entry.surrogates ≠ [] ∧ IsEncodingError entry error := by
  cases held : entry.surrogates with
  | nil =>
    rw [held] at refused
    cases refused
  | cons first others =>
    rw [held] at refused
    cases refused
    exact ⟨List.cons_ne_nil _ _, password, first, others, given, held, rfl⟩

namespace Binding

variable {before after : Binding H} {history : List (Happening (library H))}

/-! ## Errors of parts -/

/-- If the library raises failures of the mechanism only, the errors that a part of the binding
raises are as `allowed` says. -/
def RaisesOnly (work : Work H α) (allowed : Error → Prop) : Prop :=
  ∀ before history error after, (work.start before).Path history (.error error, after) →
    (∀ happening ∈ history, failsAsMechanism happening = true) → allowed error

/-- An error is a failure of the mechanism. -/
def IsMechanism (error : Error) : Prop := error.isA .mechanism = true

variable {allowed : Error → Prop}

/-- A value raises no error. -/
theorem raisesOnly_pure (value : α) : RaisesOnly (pure value : Work H α) allowed := by
  intro before history error after path _
  cases (Procedure.path_pure path).2.1

/-- An error raises itself. -/
theorem raisesOnly_throw {error : Error} (allows : allowed error) :
    RaisesOnly (throw error : Work H α) allowed := by
  intro before history raised after path _
  cases (Procedure.path_throw path).2.1
  exact allows

/-- To read the state raises no error. -/
theorem raisesOnly_get : RaisesOnly (get : Work H (Binding H)) allowed := by
  intro before history error after path _
  cases (Dialogue.path_done_iff.mp path).2

/-- To log an event raises no error. -/
theorem raisesOnly_log (event : LogEvent) :
    RaisesOnly (Procedure.log event : Work H Unit) allowed := by
  intro before history error after path _
  cases (Procedure.path_log path).2.1

/-- A request raises failures of the mechanism only. -/
theorem raisesOnly_ask {request : Request H} (allows : ∀ error, IsMechanism error → allowed error) :
    RaisesOnly (ask request) allowed := by
  intro before history error after path mechanical
  obtain ⟨rfl, _⟩ := Procedure.path_ask path
  exact allows error (mechanical _ (List.mem_singleton_self _))

/-- A sequence raises the errors of its parts only. -/
theorem RaisesOnly.bind {first : Work H α} {next : α → Work H β} (raises : RaisesOnly first allowed)
    (nexts : ∀ value, RaisesOnly (next value) allowed) : RaisesOnly (first >>= next) allowed := by
  intro before history error after path mechanical
  rcases Procedure.path_bind path with
    ⟨raised, path, same⟩ | ⟨value, middle, earlier, later, rfl, _, rest⟩
  · cases same
    exact raises _ _ _ _ path mechanical
  · exact nexts value _ _ _ _ rest (List.forall_mem_append.mp mechanical).2

/-- A library that is not there is an error of failed logins. -/
theorem raisesOnly_require :
    RaisesOnly (require .identity : Work H Unit) fun error =>
      error.isA .identityAcquisition = true := by
  refine raisesOnly_get.bind fun binding => ?_
  cases binding.availability.missing? with
  | none => exact raisesOnly_pure ()
  | some detail => exact raisesOnly_throw rfl

/-- Looking an entry up does not fail. -/
theorem raisesOnly_lookUp (name : String) :
    RaisesOnly (lookUp name : Work H (Option Login.Entry)) allowed := by
  intro before history error after path mechanical
  unfold lookUp at path
  rw [Procedure.start_get_bind] at path
  simp only [Procedure.start_set_bind] at path
  have rest : RaisesOnly (do
      if before.registry.installs name then Procedure.log (.defaultEntryInstalled name)
      return (before.registry.lookUp name).1 : Work H (Option Login.Entry)) allowed := by
    split
    · exact (raisesOnly_log _).bind fun _ => raisesOnly_pure _
    · exact raisesOnly_pure _
  exact rest _ _ _ _ path mechanical

/-- An entry that is not found, or that cannot be used because the library is not there, is an error
of failed logins. -/
theorem raisesOnly_entryFor (configuration : String) :
    RaisesOnly (entryFor configuration : Work H Login.Entry) fun error =>
      error.isA .identityAcquisition = true := by
  refine (raisesOnly_lookUp configuration).bind fun entry => ?_
  cases entry with
  | none => exact raisesOnly_throw rfl
  | some entry => exact raisesOnly_require.bind fun _ => raisesOnly_pure entry

/-- To choose a credential cache raises failures of the mechanism only. -/
theorem raisesOnly_cacheOf (entry : Login.Source)
    (allows : ∀ error, IsMechanism error → allowed error) :
    RaisesOnly (cacheOf entry : Work H CredentialStore) allowed := by
  unfold cacheOf
  split
  · split <;> exact raisesOnly_pure _
  · have fresh : RaisesOnly (ask .freshText : Work H String) allowed := raisesOnly_ask allows
    exact fresh.bind fun _ => raisesOnly_pure _

/-! ## Finding the entry -/

/-- Nothing is asked when an entry is looked up. -/
theorem confined_lookUp {allows : Happening (library H) → Prop}
    (logs : ∀ event, allows (.logged event)) (configuration : String) :
    Procedure.Confined allows (lookUp configuration : Work H (Option Login.Entry)) := by
  refine Procedure.confined_get.bind fun binding => ?_
  refine (Procedure.confined_set _).bind fun _ => ?_
  have logged : Procedure.Confined allows
      (Procedure.log (.defaultEntryInstalled configuration) : Work H Unit) :=
    Procedure.confined_log (logs _)
  split
  · exact logged.bind fun _ => Procedure.confined_pure _
  · exact Procedure.confined_pure _

/-- Nothing is asked until the entry is found. -/
theorem confined_entryFor {allows : Happening (library H) → Prop}
    (logs : ∀ event, allows (.logged event)) (configuration : String) :
    Procedure.Confined allows (entryFor configuration : Work H Login.Entry) := by
  refine (confined_lookUp logs configuration).bind fun found? => ?_
  cases found? with
  | none => exact Procedure.confined_throw _
  | some entry =>
    have required : Procedure.Confined allows (require .identity : Work H Unit) := by
      refine Procedure.confined_get.bind fun binding => ?_
      cases binding.availability.missing? with
      | none => exact Procedure.confined_pure ()
      | some detail => exact Procedure.confined_throw _
    exact required.bind fun _ => Procedure.confined_pure entry

/-- Nothing is asked until the entry is found, so nothing that is asked fails. -/
theorem allAnswered_entryFor {configuration : String} {outcome : Except Error Login.Entry}
    (path : ((entryFor configuration).start before).Path history (outcome, after)) :
    AllAnswered history := by
  have confined : Procedure.Confined
      (fun happening => ∀ request error, happening ≠ .asked request (.error error))
      (entryFor configuration : Work H Login.Entry) :=
    confined_entryFor (fun _ _ _ => nofun) configuration
  intro request error member
  exact confined.forall_mem path _ member request error rfl

/-- A look-up gives what the registry has. -/
theorem path_lookUp {configuration : String} {found? : Option Login.Entry}
    (path : ((lookUp configuration).start before).Path history (.ok found?, after)) :
    found? = (before.registry.lookUp configuration).1 := by
  unfold lookUp at path
  rw [Procedure.start_get_bind] at path
  simp only [Procedure.start_set_bind] at path
  split at path
  · obtain ⟨_, _, path⟩ := Procedure.path_log_bind path
    exact Except.ok.inj (Procedure.path_pure path).2.1
  · exact Except.ok.inj (Procedure.path_pure path).2.1

/-- The entry that is found is the one in the registry. -/
theorem path_entryFor {configuration : String} {entry : Login.Entry}
    (path : ((entryFor configuration).start before).Path history (.ok entry, after)) :
    (before.registry.lookUp configuration).1 = some entry := by
  rcases Procedure.path_bind path with
    ⟨_, _, contradiction⟩ | ⟨found?, middle, earlier, later, rfl, looking, rest⟩
  · cases contradiction
  rw [← path_lookUp looking]
  cases found? with
  | none => cases (Procedure.path_throw rest).2.1
  | some found =>
    rcases Procedure.path_bind rest with
      ⟨_, _, contradiction⟩ | ⟨_, _, _, _, rfl, _, finish⟩
    · cases contradiction
    · cases (Procedure.path_pure finish).2.1
      rfl

/-- An entry in the registry is found, unless the library is not there. -/
theorem path_entryFor_error {configuration : String} {entry : Login.Entry} {error : Error}
    (found : (before.registry.lookUp configuration).1 = some entry)
    (path : ((entryFor configuration).start before).Path history (.error error, after))
    (mechanical : ∀ happening ∈ history, failsAsMechanism happening = true) :
    ∃ detail, before.availability.missing? = some detail := by
  rcases Procedure.path_bind path with
    ⟨raised, looking, _⟩ | ⟨found?, middle, earlier, later, rfl, looking, rest⟩
  · have never : RaisesOnly (lookUp configuration : Work H (Option Login.Entry)) fun _ => False :=
      raisesOnly_lookUp configuration
    exact (never _ _ _ _ looking mechanical).elim
  have same : middle.availability = before.availability :=
    (isQuiet_lookUp configuration _ _ _ _ looking).availability_eq
  obtain rfl : found? = some entry := (path_lookUp looking).trans found
  rcases Procedure.path_bind rest with
    ⟨raised, requiring, _⟩ | ⟨_, _, _, _, rfl, _, finish⟩
  · unfold require at requiring
    rw [Procedure.start_get_bind, same] at requiring
    cases missing : before.availability.missing? with
    | none =>
      rw [missing] at requiring
      cases (Procedure.path_pure requiring).2.1
    | some detail => exact ⟨detail, rfl⟩
  · cases (Procedure.path_pure finish).2.1

/-! ## Obtaining the credential -/

/-- To acquire a credential from a cache raises failures of the mechanism only. -/
theorem raisesOnly_fromCache (entry : Login.Source) (name : Option H.Name)
    (asked : CredentialStore → Option CredentialStore) (kept : CredentialStore → CredentialStore)
    (allows : ∀ error, IsMechanism error → allowed error) :
    RaisesOnly (do
      let cache ← cacheOf entry
      let credential : H.Credential ← ask (.credential name none (asked cache))
      return (credential, kept cache) : Work H (H.Credential × CredentialStore)) allowed := by
  refine (raisesOnly_cacheOf entry allows).bind fun cache => ?_
  exact (raisesOnly_ask allows).bind fun _ => raisesOnly_pure _

/-- To acquire a credential by a password raises failures of the mechanism only. -/
theorem raisesOnly_byPassword (name : Option H.Name) (password : String)
    (allows : ∀ error, IsMechanism error → allowed error) :
    RaisesOnly (do
      let ticket : H.Ticket ← ask (.passwordLogin name password)
      let credential : H.Credential ← ask (.credentialOf ticket)
      return (credential, []) : Work H (H.Credential × CredentialStore)) allowed := by
  refine (raisesOnly_ask allows).bind fun ticket => ?_
  exact (raisesOnly_ask allows).bind fun _ => raisesOnly_pure _

/-- An error of a login that is refused: a failure of the mechanism, or a password login that it
does not support. -/
inductive IsRefusal : Error → Prop where
  | mechanism {error : Error} (failure : IsMechanism error) : IsRefusal error
  | passwordUnsupported : IsRefusal .passwordUnsupported

/-- How obtaining a credential can end: at a password that has no encoding, or in another way; an
error is then a refusal. -/
inductive Ends (entry : Login.Source) (before : Binding H)
    (history : List (Happening (library H))) : Except Error α → Prop where
  | unencodable {error : Error} (cannot : CannotEncode entry before.availability history)
      (names : IsEncodingError entry error) : Ends entry before history (.error error)
  | otherwise {outcome : Except Error α}
      (can : ¬ CannotEncode entry before.availability history)
      (raises : ∀ error, outcome = .error error → IsRefusal error) :
      Ends entry before history outcome

/-- The credential of an entry is obtained, or its password has no encoding, or else it is
refused. -/
theorem path_credentialFor_ends {entry : Login.Source}
    {outcome : Except Error (H.Credential × CredentialStore)}
    (path : ((credentialFor entry).start before).Path history (outcome, after))
    (mechanical : ∀ happening ∈ history, failsAsMechanism happening = true) :
    Ends entry before history outcome := by
  unfold credentialFor at path
  extract_lets rest at path
  -- the source is chosen in the same way with a name and without one
  have choosing : ∀ {name first later}, AllAnswered first → history = first ++ later →
      ((rest name).start before).Path later (outcome, after) →
      Ends entry before history outcome := by
    rintro name first later answered rfl path
    rw [List.forall_mem_append] at mechanical
    unfold rest at path
    split at path
    · next _ _ keytab said =>
      refine .otherwise ?_ ?_
      · intro cannot
        have contradiction := said.symm.trans cannot.unsaid
        cases contradiction
      · rintro error rfl
        exact raisesOnly_fromCache entry name _ _ (fun _ => .mechanism) _ _ _ _ path mechanical.2
    · next _ _ password unsaid given =>
      rw [Procedure.start_get_bind] at path
      split at path
      · next unknown =>
        obtain ⟨rfl, rfl, _⟩ := Procedure.path_throw path
        refine .otherwise ?_ ?_
        · intro cannot
          simp [cannot.known] at unknown
        · rintro _ ⟨⟩
          exact .passwordUnsupported
      · next known =>
        rcases Procedure.path_liftM_bind path with
          ⟨error, refused, rfl, rfl, _⟩ | ⟨encoded, encodes, path⟩
        · -- the password was reached, so every reply before it was an answer
          obtain ⟨surrogates, names⟩ := isEncodingError_of_encode given refused
          refine .unencodable ⟨by simpa using known, unsaid, by simp [given], surrogates, ?_⟩ names
          simpa using answered
        · have none := (Login.encode_eq_ok_iff.mp encodes).1
          refine .otherwise (fun cannot => cannot.surrogates none) ?_
          rintro error rfl
          exact raisesOnly_byPassword name encoded (fun _ => .mechanism) _ _ _ _ path mechanical.2
    · next _ _ unsaid ungiven =>
      refine .otherwise ?_ ?_
      · intro cannot
        have given := cannot.given
        rw [ungiven] at given
        cases given
      · rintro error rfl
        exact raisesOnly_fromCache entry name nonempty? _ (fun _ => .mechanism) _ _ _ _ path
          mechanical.2
  split at path
  · next _ principal said =>
    rcases Procedure.path_bind path with
      ⟨error, naming, rfl⟩ | ⟨name, middle, first, later, rfl, naming, choosing'⟩
    · obtain ⟨reply, same, asking⟩ := Procedure.path_map naming
      obtain ⟨rfl, _⟩ := Procedure.path_ask asking
      cases reply with
      | ok handle => cases same
      | error raised =>
        cases same
        refine .otherwise (fun cannot => cannot.answered _ _ List.mem_cons_self) ?_
        rintro _ ⟨⟩
        exact .mechanism (mechanical _ List.mem_cons_self)
    · obtain ⟨reply, same, asking⟩ := Procedure.path_map naming
      obtain ⟨rfl, rfl⟩ := Procedure.path_ask asking
      cases reply with
      | error error => cases same
      | ok handle =>
        refine choosing ?_ rfl choosing'
        intro request error member
        cases List.mem_singleton.mp member
  · exact choosing (fun _ _ => List.not_mem_nil) rfl path

end Binding

end SignOn.Gss
