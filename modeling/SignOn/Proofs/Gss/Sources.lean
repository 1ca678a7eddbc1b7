import SignOn.Proofs.Gss.Entering

/-!
# Where logins get credentials from

A login asks the library for a credential once at most: from a keytab, by a password, or from a
credential cache (`Acquisition`). Which it is, for which name and from which locations, its entry
decides, and the identity keeps those locations (`Selects`, `path_login_selects`). Valid entries
promise more than that (`KeepsPromise`), but the empty text is a principal or a keytab when an entry
is checked, and is none when it is used. Main statement: the promise is kept unless the entry rests
on an empty text (`promise_kept_iff`).
-/

set_option autoImplicit false

namespace SignOn.Gss

open Binding
open Dialogue (Happening)

variable {H : Handles} {α β : Type}

/-! ## Acquisitions -/

/-- How a credential is acquired, for a name or for none: from locations, the default ones if none
are given, or by a password. -/
inductive Acquisition (H : Handles) where
  | fromStore (name : Option H.Name) (store : CredentialStore)
  | byPassword (name : Option H.Name) (password : String)

/-- The locations that the credential comes from and is kept in; a password needs none. -/
def Acquisition.store : Acquisition H → CredentialStore
  | .fromStore _ store => store
  | .byPassword _ _ => []

/-- The acquisition that the library is asked for, whether it succeeds or not. -/
def acquisition? : Happening (library H) → Option (Acquisition H)
  | .asked (.credential name _ store) _ => some (.fromStore name (store.getD []))
  | .asked (.passwordLogin name password) _ => some (.byPassword name password)
  | _ => none

/-- The acquisitions that the library is asked for, in order. -/
def acquisitions (history : List (Happening (library H))) : List (Acquisition H) :=
  history.filterMap acquisition?

/-- The acquisitions in two stretches are those in the one and then those in the other. -/
@[simp] theorem acquisitions_append (earlier later : List (Happening (library H))) :
    acquisitions (earlier ++ later) = acquisitions earlier ++ acquisitions later :=
  List.filterMap_append

/-! ## What an entry decides -/

/-- A text says nothing if it is not given or empty. -/
theorem saying?_eq_none_iff {text : Option String} :
    saying? text = none ↔ text = none ∨ text = some "" := by
  unfold saying?
  split <;> simp_all

/-- A text that says something is given and not empty. -/
theorem saying?_eq_some_iff {text : Option String} {said : String} :
    saying? text = some said ↔ text = some said ∧ said ≠ "" := by
  unfold saying?
  split
  · simp
  · next other =>
    constructor
    · rintro rfl
      exact ⟨rfl, fun empty => other (congrArg some empty)⟩
    · exact And.left

variable {entry : Login.Source} {history earlier later : List (Happening (library H))}

/-- A name is the one that the library has for the principal of an entry. -/
def Names (entry : Login.Source) (history : List (Happening (library H))) (name : Option H.Name) :
    Prop :=
  match saying? entry.principal with
  | none => name = none
  | some principal =>
    ∃ handle, name = some handle ∧ .asked (.name principal .user) (.ok handle) ∈ history

/-- A credential cache is private if its name was made up for it. -/
def IsPrivate (history : List (Happening (library H))) (cache : String) : Prop :=
  ∃ text, .asked .freshText (.ok text) ∈ history ∧ cache = "MEMORY:kerbauth-" ++ text

/-- The locations are those of the credential cache of an entry: the one that it says, or else the
default one; a private one, if the ticket cache is not used. -/
def Caches (entry : Login.Source) (history : List (Happening (library H)))
    (locations : CredentialStore) : Prop :=
  if entry.useTicketCache then
    locations = (saying? entry.ccache).toList.map fun cache => ("ccache", cache)
  else ∃ cache, IsPrivate history cache ∧ locations = [("ccache", cache)]

/-- An acquisition is the one that an entry decides on. -/
inductive Acquires (entry : Login.Source) (history : List (Happening (library H))) :
    Acquisition H → Prop where
  | byKeytab {name : Option H.Name} {keytab : String} {locations : CredentialStore}
      (said : saying? entry.keytab = some keytab) (names : Names entry history name)
      (caches : Caches entry history locations) :
      Acquires entry history (.fromStore name (("client_keytab", keytab) :: locations))
  | byPassword {name : Option H.Name} {password : String} (unsaid : saying? entry.keytab = none)
      (given : entry.password = some password) (names : Names entry history name) :
      Acquires entry history (.byPassword name password)
  | byCache {name : Option H.Name} {locations : CredentialStore}
      (unsaid : saying? entry.keytab = none) (ungiven : entry.password = none)
      (names : Names entry history name) (caches : Caches entry history locations) :
      Acquires entry history (.fromStore name locations)

/-- A name made for a principal remains so whatever else happens. -/
theorem Names.mono {name : Option H.Name} (names : Names entry earlier name)
    (kept : earlier ⊆ history) : Names entry history name := by
  unfold Names at names ⊢
  split at names
  · exact names
  · obtain ⟨handle, same, named⟩ := names
    exact ⟨handle, same, kept named⟩

/-- The locations of a cache remain so whatever else happens. -/
theorem Caches.mono {locations : CredentialStore} (caches : Caches entry earlier locations)
    (kept : earlier ⊆ history) : Caches entry history locations := by
  unfold Caches at caches ⊢
  by_cases shared : entry.useTicketCache = true
  · rwa [if_pos shared] at caches ⊢
  · rw [if_neg shared] at caches ⊢
    obtain ⟨cache, ⟨text, fresh, made⟩, same⟩ := caches
    exact ⟨cache, ⟨text, kept fresh, made⟩, same⟩

/-- What an entry decides on does not depend on what else happens. -/
theorem Acquires.mono {acquisition : Acquisition H} (acquires : Acquires entry earlier acquisition)
    (kept : earlier ⊆ history) : Acquires entry history acquisition := by
  cases acquires with
  | byKeytab said names caches => exact .byKeytab said (names.mono kept) (caches.mono kept)
  | byPassword unsaid given names => exact .byPassword unsaid given (names.mono kept)
  | byCache unsaid ungiven names caches =>
    exact .byCache unsaid ungiven (names.mono kept) (caches.mono kept)

/-- A cache that an entry allows: the one that it says, if it uses the ticket cache, and a private
one otherwise. -/
def AllowsCache (entry : Login.Source) (history : List (Happening (library H)))
    (cache : String) : Prop :=
  (entry.useTicketCache = true ∧ entry.ccache = some cache ∧ cache ≠ "") ∨
    (entry.useTicketCache = false ∧ IsPrivate history cache)

/-- The only location of a cache is one that the entry allows. -/
theorem Caches.of_mem {locations : CredentialStore} {location : String × String}
    (caches : Caches entry history locations) (member : location ∈ locations) :
    location.1 = "ccache" ∧ AllowsCache entry history location.2 := by
  unfold Caches at caches
  by_cases shared : entry.useTicketCache = true
  · rw [if_pos shared] at caches
    rw [caches] at member
    obtain ⟨cache, said, rfl⟩ := List.mem_map.mp member
    exact ⟨rfl, .inl ⟨shared, saying?_eq_some_iff.mp (Option.mem_toList.mp said)⟩⟩
  · rw [if_neg shared] at caches
    obtain ⟨cache, made, rfl⟩ := caches
    obtain rfl := List.mem_singleton.mp member
    exact ⟨rfl, .inr ⟨Bool.not_eq_true _ ▸ shared, made⟩⟩

/-- A cache that a credential comes from, or is kept in, is one that the entry allows. -/
theorem Acquires.allowsCache {acquisition : Acquisition H} {cache : String}
    (acquires : Acquires entry history acquisition)
    (member : ("ccache", cache) ∈ acquisition.store) : AllowsCache entry history cache := by
  cases acquires with
  | byKeytab said names caches =>
    rcases List.mem_cons.mp member with other | member
    · exact absurd (congrArg Prod.fst other) (by decide : "ccache" ≠ "client_keytab")
    · exact (caches.of_mem member).2
  | byPassword unsaid given names => cases member
  | byCache unsaid ungiven names caches => exact (caches.of_mem member).2

/-! ## Promises -/

/-- What a valid entry promises: a password is used for a name, and without the ticket cache a
credential comes from a keytab, if not by a password. -/
def KeepsPromise (entry : Login.Source) : Acquisition H → Prop
  | .fromStore _ store => entry.useTicketCache = false → ∃ keytab, ("client_keytab", keytab) ∈ store
  | .byPassword name _ => name ≠ none

/-- An entry rests on an empty text: its password on an empty principal, or all of it on an empty
keytab. -/
def RestsOnEmpty (entry : Login.Source) : Prop :=
  (entry.keytab = none ∨ entry.keytab = some "") ∧ entry.password ≠ none ∧
      entry.principal = some "" ∨
    entry.keytab = some "" ∧ entry.password = none ∧ entry.useTicketCache = false

/-- The promise of a valid entry is kept by what it decides on, unless it rests on an empty text. -/
theorem Acquires.keepsPromise_iff {entry : Login.Entry} {acquisition : Acquisition H}
    (acquires : Acquires entry.toSource history acquisition) :
    KeepsPromise entry.toSource acquisition ↔ ¬ RestsOnEmpty entry.toSource := by
  cases acquires with
  | @byKeytab name keytab locations said names caches =>
    have present : entry.keytab = some keytab ∧ keytab ≠ "" := saying?_eq_some_iff.mp said
    refine iff_of_true (fun _ => ⟨keytab, List.mem_cons_self⟩) ?_
    simp [RestsOnEmpty, present.1, present.2]
  | @byPassword name password unsaid given names =>
    have absent := saying?_eq_none_iff.mp unsaid
    have named : entry.principal ≠ none := by
      have given := entry.namesPrincipal (by rw [given]; rfl)
      exact Option.isSome_iff_ne_none.mp given
    have blank : name = none ↔ entry.principal = some "" := by
      unfold Names at names
      split at names
      · next unsaid =>
        exact iff_of_true names ((saying?_eq_none_iff.mp unsaid).resolve_left named)
      · next principal said =>
        obtain ⟨handle, rfl, _⟩ := names
        obtain ⟨same, given⟩ := saying?_eq_some_iff.mp said
        simp [same, given]
    simp [KeepsPromise, RestsOnEmpty, absent, given, blank]
  | @byCache name locations unsaid ungiven names caches =>
    -- validation has seen a keytab where nothing else is left, so one that says nothing is empty
    have keytab : entry.useTicketCache = false → entry.keytab = some "" := by
      intro unshared
      have origin := entry.hasOrigin
      refine (saying?_eq_none_iff.mp unsaid).resolve_left fun none => ?_
      simp [Login.Source.HasOrigin, none, ungiven, unshared] at origin
    have noKeytab : ¬ ∃ keytab, ("client_keytab", keytab) ∈ locations := by
      rintro ⟨keytab, member⟩
      exact absurd (caches.of_mem member).1 (by decide : "client_keytab" ≠ "ccache")
    cases used : entry.useTicketCache with
    | true => simp [KeepsPromise, RestsOnEmpty, used, ungiven]
    | false => simp [KeepsPromise, RestsOnEmpty, used, ungiven, noKeytab, keytab used]

/-! ## Parts of logins -/

namespace Binding

variable {before after : Binding H}

/-- Whatever the library does, a part of the binding asks it for no credential to be acquired. -/
abbrev Abstains (work : Work H α) : Prop :=
  Procedure.Confined (fun happening => acquisition? happening = none) work

/-- On a path through a part that acquires nothing there are no acquisitions. -/
theorem Abstains.acquisitions_eq_nil {work : Work H α} {outcome : Except Error α}
    (abstains : Abstains work) (path : (work.start before).Path history (outcome, after)) :
    acquisitions history = [] :=
  List.filterMap_eq_nil_iff.mpr (abstains.forall_mem path)

/-- A value acquires nothing. -/
theorem abstains_pure (value : α) : Abstains (pure value : Work H α) :=
  Procedure.confined_pure value

/-- An error acquires nothing. -/
theorem abstains_throw (error : Error) : Abstains (throw error : Work H α) :=
  Procedure.confined_throw error

/-- To log an event acquires nothing. -/
theorem abstains_note (event : MechanismEvent) : Abstains (note event : Work H Unit) :=
  Procedure.confined_log rfl

/-- A result that is there already acquires nothing. -/
theorem abstains_liftM (result : Except Error α) : Abstains (liftM result : Work H α) := by
  cases result with
  | error error => exact abstains_throw error
  | ok value => exact abstains_pure value

/-- An answer to a failure acquires nothing if no answer does. -/
theorem abstains_answered {onFailure : Error → Work H α}
    (answers : ∀ error, Abstains (onFailure error)) (result : Except Error α) :
    Abstains (answered onFailure result) := by
  cases result with
  | ok value => exact abstains_pure value
  | error error =>
    unfold answered
    dsimp only
    split
    · exact answers error
    · exact abstains_throw error

/-- A part whose failures are answered acquires nothing if neither it nor an answer does. -/
theorem abstains_onMechanismFailure {onFailure : Error → Work H α} {part : Work H α}
    (abstains : Abstains part) (answers : ∀ error, Abstains (onFailure error)) :
    Abstains (onMechanismFailure onFailure part) := by
  refine abstains.attempt.bind fun result => ?_
  have answer := abstains_answered answers result
  cases result <;> exact answer

/-- To find the entry of a login acquires nothing. -/
theorem abstains_entryFor (configuration : String) :
    Abstains (entryFor configuration : Work H Login.Entry) :=
  confined_entryFor (fun _ => rfl) configuration

/-- To ask for the principal of a credential acquires nothing. -/
theorem abstains_principalOf (credential : H.Credential) :
    Abstains (principalOf credential : Work H (Option Principal)) := by
  have named : Abstains (ask (.nameOf credential)) := Procedure.confined_ask fun _ => rfl
  refine named.bind fun known => ?_
  cases known with
  | none => exact abstains_pure none
  | some _ =>
    refine named.bind fun name => ?_
    dsimp only
    split
    · exact (abstains_liftM _).bind fun _ => abstains_pure _
    · exact abstains_pure none

/-- To ask for the principal of a credential, or release it, acquires nothing. -/
theorem abstains_principalOrRelease (credential : H.Credential) :
    Abstains (principalOrRelease credential : Work H (Option Principal)) := by
  refine abstains_onMechanismFailure (abstains_principalOf credential) fun error => ?_
  have released : Abstains (ask (.release credential)) := Procedure.confined_ask fun _ => rfl
  have quietly : Abstains (releaseQuietly credential) :=
    abstains_onMechanismFailure (released.bind fun _ => abstains_pure ()) fun error =>
      abstains_note _
  exact quietly.bind fun _ => abstains_throw error

/-- To choose a credential cache acquires nothing. -/
theorem abstains_cacheOf (entry : Login.Source) :
    Abstains (cacheOf entry : Work H CredentialStore) := by
  unfold cacheOf
  split
  · split <;> exact abstains_pure _
  · have fresh : Abstains (ask .freshText : Work H String) := Procedure.confined_ask fun _ => rfl
    exact fresh.bind fun _ => abstains_pure _

/-- The cache that is chosen is the one of the entry. -/
theorem path_cacheOf {locations : CredentialStore}
    (path : ((cacheOf entry).start before).Path history (.ok locations, after)) :
    Caches entry history locations := by
  unfold cacheOf at path
  unfold Caches
  split at path
  · next shared =>
    rw [if_pos shared]
    cases said : saying? entry.ccache
    all_goals
      rw [said] at path
      obtain ⟨_, same, _⟩ := Procedure.path_pure path
      cases same
      rfl
  · next unshared =>
    rw [if_neg unshared]
    rcases Procedure.path_bind path with
      ⟨_, _, contradiction⟩ | ⟨text, _, earlier, later, rfl, asking, made⟩
    · cases contradiction
    obtain ⟨rfl, _⟩ := Procedure.path_ask asking
    obtain ⟨rfl, same, _⟩ := Procedure.path_pure made
    cases same
    exact ⟨_, ⟨text, List.mem_cons_self, rfl⟩, rfl⟩

/-! ## Logins -/

/-- What comes of a login by an entry: an error before anything is acquired, or one acquisition, the
one that the entry decides on. A value keeps the locations of that. -/
inductive Selects (entry : Login.Source) (keeps : α → CredentialStore → Prop)
    (history : List (Happening (library H))) : Except Error α → Prop where
  | nothing (error : Error) (none : acquisitions history = []) :
      Selects entry keeps history (.error error)
  | once {outcome : Except Error α} (acquisition : Acquisition H)
      (one : acquisitions history = [acquisition]) (acquires : Acquires entry history acquisition)
      (kept : ∀ value, outcome = .ok value → keeps value acquisition.store) :
      Selects entry keeps history outcome

section Selects

variable {keeps : α → CredentialStore → Prop} {keeps' : β → CredentialStore → Prop}
  {outcome : Except Error α} {outcome' : Except Error β}

/-- Nothing is kept where an error is raised. -/
theorem Selects.raised (selects : Selects entry keeps history outcome) (error : Error) :
    Selects entry keeps' history (.error error) := by
  cases selects with
  | nothing _ none => exact .nothing error none
  | once acquisition one acquires _ => exact .once acquisition one acquires nofun

/-- What goes on without an acquisition may have a value if it began with one that is kept. -/
theorem Selects.append (selects : Selects entry keeps earlier outcome)
    (quiet : acquisitions later = [])
    (follows : ∀ value', outcome' = .ok value' →
      ∃ value, outcome = .ok value ∧ ∀ store, keeps value store → keeps' value' store) :
    Selects entry keeps' (earlier ++ later) outcome' := by
  cases selects with
  | nothing error none =>
    cases outcome' with
    | error raised => exact .nothing raised (by simp [none, quiet])
    | ok value' =>
      obtain ⟨_, contradiction, _⟩ := follows value' rfl
      cases contradiction
  | once acquisition one acquires kept =>
    refine .once acquisition (by simp [one, quiet])
      (acquires.mono (List.subset_append_left _ _)) ?_
    intro value' come
    obtain ⟨value, same, keeps⟩ := follows value' come
    exact keeps _ (kept value same)

/-- A stretch without an acquisition may come first. -/
theorem Selects.prepend (quiet : acquisitions earlier = [])
    (selects : Selects entry keeps later outcome) :
    Selects entry keeps (earlier ++ later) outcome := by
  cases selects with
  | nothing error none => exact .nothing error (by simp [quiet, none])
  | once acquisition one acquires kept =>
    exact .once acquisition (by simp [quiet, one]) (acquires.mono (List.subset_append_right _ _))
      kept

end Selects

/-- Locations of which none is passed on if there are none are still the same locations. -/
theorem getD_nonempty? (store : CredentialStore) : (nonempty? store).getD [] = store := by
  cases store <;> rfl

/-- A request whose reply is made into a value. -/
theorem path_ask_return {request : Request H} {f : Reply request → α} {outcome : Except Error α}
    (path : ((ask request >>= fun reply => pure (f reply)).start before).Path history
      (outcome, after)) :
    ∃ reply, history = [.asked request reply] ∧ outcome = f <$> reply := by
  rcases Procedure.path_bind path with
    ⟨error, asking, rfl⟩ | ⟨reply, _, earlier, later, rfl, asking, finish⟩
  · exact ⟨.error error, (Procedure.path_ask asking).1, rfl⟩
  · obtain ⟨rfl, _⟩ := Procedure.path_ask asking
    obtain ⟨rfl, rfl, _⟩ := Procedure.path_pure finish
    exact ⟨.ok reply, rfl, rfl⟩

/-- A credential that is acquired from the cache of an entry, among other locations. -/
theorem path_fromCache {name : Option H.Name} {asked : CredentialStore → Option CredentialStore}
    {kept : CredentialStore → CredentialStore}
    {outcome : Except Error (H.Credential × CredentialStore)}
    (same : ∀ cache, (asked cache).getD [] = kept cache)
    (path : ((do
        let cache ← cacheOf entry
        let credential : H.Credential ← ask (.credential name none (asked cache))
        return (credential, kept cache) : Work H _).start before).Path history (outcome, after)) :
    (∃ error, outcome = .error error ∧ acquisitions history = []) ∨
      ∃ cache, Caches entry history cache ∧
        acquisitions history = [.fromStore name (kept cache)] ∧
        ∀ value, outcome = .ok value → value.2 = kept cache := by
  rcases Procedure.path_bind path with
    ⟨error, caching, rfl⟩ | ⟨cache, _, first, later, rfl, caching, acquiring⟩
  · exact .inl ⟨error, rfl, (abstains_cacheOf entry).acquisitions_eq_nil caching⟩
  · obtain ⟨reply, rfl, rfl⟩ := path_ask_return acquiring
    refine .inr ⟨cache, (path_cacheOf caching).mono (List.subset_append_left _ _), ?_, ?_⟩
    · rw [acquisitions_append, (abstains_cacheOf entry).acquisitions_eq_nil caching, ← same]
      rfl
    · intro value come
      cases reply <;> cases come
      rfl

/-- A credential that is acquired by a password, which leaves no locations behind. -/
theorem path_byPassword {name : Option H.Name} {password : String}
    {outcome : Except Error (H.Credential × CredentialStore)}
    (path : ((do
        let ticket : H.Ticket ← ask (.passwordLogin name password)
        let credential : H.Credential ← ask (.credentialOf ticket)
        return (credential, []) : Work H _).start before).Path history (outcome, after)) :
    acquisitions history = [.byPassword name password] ∧
      ∀ value, outcome = .ok value → value.2 = [] := by
  rcases Procedure.path_bind path with
    ⟨error, asking, rfl⟩ | ⟨ticket, _, first, later, rfl, asking, making⟩
  · obtain ⟨rfl, _⟩ := Procedure.path_ask asking
    exact ⟨rfl, nofun⟩
  · obtain ⟨rfl, _⟩ := Procedure.path_ask asking
    obtain ⟨reply, rfl, rfl⟩ := path_ask_return making
    refine ⟨rfl, ?_⟩
    intro value come
    cases reply <;> cases come
    rfl

/-- The store of a credential is that of its acquisition. -/
theorem path_credentialFor {outcome : Except Error (H.Credential × CredentialStore)}
    (path : ((credentialFor entry).start before).Path history (outcome, after)) :
    Selects entry (fun value store => value.2 = store) history outcome := by
  unfold credentialFor at path
  extract_lets rest at path
  -- the source is chosen in the same way with a name and without one
  have selects : ∀ {name first later middle}, Names entry first name → acquisitions first = [] →
      ((rest name).start middle).Path later (outcome, after) →
      Selects entry (fun value store => value.2 = store) (first ++ later) outcome := by
    intro name first later middle names silent path
    unfold rest at path
    have names' : Names entry (first ++ later) name := names.mono (List.subset_append_left _ _)
    split at path
    · next _ _ keytab said =>
      rcases path_fromCache (fun _ => rfl) path with
        ⟨error, rfl, quiet⟩ | ⟨cache, caches, one, kept⟩
      · exact .nothing error (by simp [silent, quiet])
      · have caches' := caches.mono (List.subset_append_right first later)
        exact .once _ (by simp [silent, one]) (.byKeytab said names' caches') kept
    · next _ _ password unsaid given =>
      rw [Procedure.start_get_bind] at path
      split at path
      · obtain ⟨rfl, rfl, _⟩ := Procedure.path_throw path
        exact .nothing _ (by simp [silent])
      · rcases Procedure.path_liftM_bind path with
          ⟨error, _, rfl, rfl, _⟩ | ⟨encoded, encodes, asking⟩
        · exact .nothing error (by simp [silent])
        · -- a password that is passed on is passed on as it was given
          obtain ⟨_, rfl⟩ := Login.encode_eq_ok_iff.mp encodes
          obtain ⟨one, kept⟩ := path_byPassword asking
          exact .once _ (by simp [silent, one]) (.byPassword unsaid given names') kept
    · next _ _ unsaid ungiven =>
      rcases path_fromCache getD_nonempty? path with
        ⟨error, rfl, quiet⟩ | ⟨cache, caches, one, kept⟩
      · exact .nothing error (by simp [silent, quiet])
      · have caches' := caches.mono (List.subset_append_right first later)
        exact .once _ (by simp [silent, one]) (.byCache unsaid ungiven names' caches') kept
  split at path
  · next _ principal said =>
    rcases Procedure.path_bind path with
      ⟨error, naming, rfl⟩ | ⟨name, middle, first, later, rfl, naming, choosing⟩
    · obtain ⟨reply, _, asking⟩ := Procedure.path_map naming
      obtain ⟨rfl, _⟩ := Procedure.path_ask asking
      exact .nothing error rfl
    · obtain ⟨reply, same, asking⟩ := Procedure.path_map naming
      obtain ⟨rfl, _⟩ := Procedure.path_ask asking
      cases reply with
      | error error => cases same
      | ok handle =>
        cases same
        refine selects ?_ rfl choosing
        unfold Names
        rw [said]
        exact ⟨handle, rfl, List.mem_cons_self⟩
  · next _ unsaid =>
    have names : Names entry ([] : List (Happening (library H))) none := by
      unfold Names
      rw [unsaid]
    exact selects names rfl path

/-- The identity that an entry describes keeps the locations of its credential. -/
theorem path_identityFor_selects {outcome : Except Error (Identity H.Credential)}
    (path : ((identityFor entry).start before).Path history (outcome, after)) :
    Selects entry (fun identity store => identity.store = store) history outcome := by
  rcases Procedure.path_bind path with
    ⟨error, obtaining, rfl⟩ | ⟨⟨credential, store⟩, middle, first, later, rfl, obtaining, rest⟩
  · exact (path_credentialFor obtaining).raised error
  · have describes : Abstains (do
        let principal ← principalOrRelease credential
        return {
          principal := principal, store := store, origin := .login, handle := some credential } :
        Work H (Identity H.Credential)) :=
      (abstains_principalOrRelease credential).bind fun _ => abstains_pure _
    refine (path_credentialFor obtaining).append (describes.acquisitions_eq_nil rest) ?_
    intro identity come
    refine ⟨_, rfl, ?_⟩
    rintro _ rfl
    rcases Procedure.path_bind rest with
      ⟨_, _, rfl⟩ | ⟨_, _, _, _, _, _, finish⟩
    · cases come
    · obtain ⟨_, rfl, _⟩ := Procedure.path_pure finish
      cases come
      rfl

/-- A failure to bring an identity about is answered by an error. -/
theorem path_guarded_selects {configuration : String}
    {outcome : Except Error (Identity H.Credential)}
    (path : ((onMechanismFailure (answerFailure configuration) (identityFor entry)).start
      before).Path history (outcome, after)) :
    Selects entry (fun identity store => identity.store = store) history outcome := by
  obtain ⟨result, middle, earlier, later, rfl, describing, answer⟩ := path_onMechanismFailure path
  have answers : ∀ error, Abstains (answerFailure configuration error : Work H _) :=
    fun error => (abstains_note _).bind fun _ => abstains_throw _
  have quiet := (abstains_answered answers result).acquisitions_eq_nil answer
  refine (path_identityFor_selects describing).append quiet ?_
  intro identity come
  cases result with
  | ok described =>
    obtain ⟨_, rfl, _⟩ := Procedure.path_pure answer
    exact ⟨described, rfl, fun _ same => Except.ok.inj come ▸ same⟩
  | error error =>
    obtain ⟨_, rfl, _⟩ := raises_answered (fun _ => raises_noted _ _) error _ _ _ _ answer
    cases come

/-- A login by a registered entry acquires what the entry decides on, and the identity keeps the
locations of that. -/
theorem path_login_selects {configuration : String} {entry : Login.Entry}
    {outcome : Except Error IdentityRef}
    (found : (before.registry.lookUp configuration).1 = some entry)
    (path : ((login configuration).start before).Path history (outcome, after)) :
    Selects entry.toSource (fun reference store =>
      ∃ identity, after.identities[reference]? = some identity ∧ identity.store = store)
      history outcome := by
  rw [login_eq] at path
  rcases Procedure.path_bind path with
    ⟨error, finding, rfl⟩ | ⟨entry', ready, first, later, rfl, finding, entering⟩
  · exact .nothing error ((abstains_entryFor configuration).acquisitions_eq_nil finding)
  obtain rfl : entry = entry' := Option.some.inj (found.symm.trans (path_entryFor finding))
  refine .prepend ((abstains_entryFor configuration).acquisitions_eq_nil finding) ?_
  rcases Procedure.path_bind entering with
    ⟨error, identifying, rfl⟩ | ⟨identity, identified, second, third, rfl, identifying, rest⟩
  · exact (path_guarded_selects identifying).raised error
  · obtain ⟨noted, rfl, adding⟩ := Procedure.path_log_bind rest
    obtain ⟨reference, rfl, rfl, present⟩ := path_addIdentity adding
    refine (path_guarded_selects identifying).append rfl ?_
    rintro _ ⟨⟩
    exact ⟨identity, rfl, fun _ same => ⟨identity, present, same⟩⟩

end Binding

/-- Whatever the library does, a login by a registered entry asks for one credential at most, the
one that its entry decides on, and for none only if it fails. What a valid entry promises is kept if
and only if the entry does not rest on an empty text. The cache that an entry says is used only if
the ticket cache is, and the identity keeps the locations that its credential was acquired from,
none in case of a password. -/
theorem promise_kept_iff {σ : Type} (answer : Dialogue.Answerer (library H) σ) (binding : Binding H)
    (configuration : String) {entry : Login.Entry}
    (found : (binding.registry.lookUp configuration).1 = some entry) (state : σ) :
    let run := ((Binding.login configuration).start binding).run answer state
    (acquisitions run.history).length ≤ 1 ∧
      (acquisitions run.history = [] → ∃ error, run.value.1 = .error error) ∧
      ∀ acquisition ∈ acquisitions run.history,
        Acquires entry.toSource run.history acquisition ∧
        (KeepsPromise entry.toSource acquisition ↔ ¬ RestsOnEmpty entry.toSource) ∧
        (∀ cache, ("ccache", cache) ∈ acquisition.store →
          AllowsCache entry.toSource run.history cache) ∧
        ∀ reference, run.value.1 = .ok reference →
          ∃ identity, run.value.2.identities[reference]? = some identity ∧
            identity.store = acquisition.store := by
  intro run
  have path : ((Binding.login configuration).start binding).Path run.history
      (run.value.1, run.value.2) := Dialogue.run_path answer _ state
  have selects := path_login_selects found path
  generalize run.value.1 = outcome at selects
  cases selects with
  | nothing error none => simp [none]
  | once acquisition one acquires kept =>
    rw [one]
    refine ⟨Nat.le_refl 1, nofun, ?_⟩
    simp only [List.forall_mem_singleton]
    exact ⟨acquires, acquires.keepsPromise_iff, fun cache => acquires.allowsCache, kept⟩

/-- What happens when one logs in by an entry, with a library that knows password logins. -/
def trial (entry : Login.Entry) :
    Dialogue.Outcome (library Simulation.labelled) Simulation.Library
      (Except Error IdentityRef × Binding Simulation.labelled) :=
  ((Binding.login "app").start (opened (({} : Login.Registry).register "app" entry) true)).run
    Simulation.Library.answer {}

/-- An entry with an empty keytab, which has a password to fall back on. -/
def blankKeytab : Login.Entry where
  principal := some "app@EXAMPLE.COM"
  password := some "secret"
  ccache := some "FILE:/tmp/cache"
  keytab := some ""
  useTicketCache := false
  namesPrincipal _ := rfl
  hasOrigin := .inl rfl

/-- The password is used for the principal, and the cache that the entry says is not used. -/
theorem blank_keytab_passed_over :
    let registry := ({} : Login.Registry).register "app" blankKeytab
    let acquisition : Acquisition Simulation.labelled :=
      .byPassword (some "app@EXAMPLE.COM") "secret"
    (registry.lookUp "app").1 = some blankKeytab ∧
      acquisitions (trial blankKeytab).history = [acquisition] ∧
      KeepsPromise blankKeytab.toSource acquisition ∧
      ∃ identity, (trial blankKeytab).value.2.identities[0]? = some identity ∧
        identity.store = [] := by
  intro registry acquisition
  have found : (registry.lookUp "app").1 = some blankKeytab := rfl
  have one : acquisitions (trial blankKeytab).history = [acquisition] := rfl
  obtain ⟨_, _, all⟩ :=
    promise_kept_iff Simulation.Library.answer (opened registry true) "app" found {}
  obtain ⟨_, kept_iff, _, kept⟩ := all acquisition (one ▸ List.mem_singleton_self acquisition)
  refine ⟨found, one, kept_iff.mpr ?_, kept 0 rfl⟩
  rintro (⟨_, _, empty⟩ | ⟨_, none, _⟩)
  · exact absurd empty (by decide)
  · cases none

/-- An entry whose password comes with an empty principal. -/
def blankPrincipal : Login.Entry where
  principal := some ""
  password := some "secret"
  namesPrincipal _ := rfl
  hasOrigin := .inr (.inl rfl)

/-- An entry that has an empty keytab and nothing else. -/
def onlyBlankKeytab : Login.Entry where
  keytab := some ""
  useTicketCache := false
  namesPrincipal password := by cases password
  hasOrigin := .inl rfl

/-- Both entries are accepted when they are checked, and both logins succeed: by a password without
a name, and from nothing but a private cache. -/
theorem blank_texts_break_promises :
    let nameless : Acquisition Simulation.labelled := .byPassword none "secret"
    let sourceless : Acquisition Simulation.labelled :=
      .fromStore none [("ccache", "MEMORY:kerbauth-00000000000000000000000000000001")]
    (Login.Entry.ofSource blankPrincipal.toSource = .ok blankPrincipal ∧
      acquisitions (trial blankPrincipal).history = [nameless] ∧
      (trial blankPrincipal).value.1 = .ok 0 ∧
      ¬ KeepsPromise blankPrincipal.toSource nameless) ∧
    Login.Entry.ofSource onlyBlankKeytab.toSource = .ok onlyBlankKeytab ∧
      acquisitions (trial onlyBlankKeytab).history = [sourceless] ∧
      (trial onlyBlankKeytab).value.1 = .ok 0 ∧
      ¬ KeepsPromise onlyBlankKeytab.toSource sourceless := by
  intro nameless sourceless
  refine ⟨⟨rfl, rfl, rfl, fun promise => promise rfl⟩, rfl, rfl, rfl, ?_⟩
  intro promise
  obtain ⟨keytab, member⟩ := promise rfl
  simp at member

end SignOn.Gss
