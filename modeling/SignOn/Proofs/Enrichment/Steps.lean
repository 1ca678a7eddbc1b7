import SignOn.Enrichment
import SignOn.Proofs.Realm.Searching

/-!
# The steps of enrichment

Every way in which the realm of a host is looked for (`Locates`) and in which a name is completed
with it (`Enriches`), as relations between what is given, what happens and the outcome. Every path
is among those that are listed, so later proofs go by the relations.
-/

set_option autoImplicit false

namespace SignOn.Enrichment

open Dialogue (Happening)
open Realm (Searches candidateTexts)

variable {V : Type}

/-- The request for a validator is one happening, with the reply for its outcome. -/
theorem path_probe {host : String} {history : List (Happening (collaborators V))}
    {outcome : Except Error V} (path : (probe host).run.Path history outcome) :
    history = [.asked (.probe host) outcome] := by
  unfold probe at path
  exact Action.path_ask path

/-- So is the request for a verdict. -/
theorem path_validate {validator : V} {candidate : String}
    {history : List (Happening (collaborators V))} {outcome : Except Error Bool}
    (path : (validate validator candidate).run.Path history outcome) :
    history = [.asked (.validate validator candidate) outcome] := by
  unfold validate at path
  exact Action.path_ask path

/-- So is the request for a canonical name. -/
theorem path_canonicalize {host : String} {history : List (Happening (collaborators V))}
    {outcome : Except Error String} (path : (canonicalize host).run.Path history outcome) :
    history = [.asked (.canonicalize host) outcome] := by
  unfold canonicalize at path
  exact Action.path_ask path

/-- The realm of a host is looked for: in the host itself and, if that is allowed and yields none,
in its canonical name. The outcome is the realm, if there is one, with the host that goes with
it. -/
inductive Locates (host : String) (allowed : Bool) :
    List (Happening (collaborators V)) → Except Error (Option Realm × String) → Prop where
  | probeRaised (error : Error) :
      Locates host allowed [.asked (.probe host) (.error error)] (.error error)
  | searchRaised {history : List (Happening (collaborators V))} (validator : V) (error : Error)
      (searches : Searches (validate validator) (candidateTexts host) history (.error error)) :
      Locates host allowed (.asked (.probe host) (.ok validator) :: history) (.error error)
  | found {history : List (Happening (collaborators V))} (validator : V) (realm : Realm)
      (searches : Searches (validate validator) (candidateTexts host) history (.ok (some realm))) :
      Locates host allowed (.asked (.probe host) (.ok validator) :: history)
        (.ok (some realm, host))
  | unfound {history : List (Happening (collaborators V))} (validator : V)
      (searches : Searches (validate validator) (candidateTexts host) history (.ok none))
      (forbidden : allowed = false) :
      Locates host allowed (.asked (.probe host) (.ok validator) :: history) (.ok (none, host))
  | unresolved {history : List (Happening (collaborators V))} (validator : V)
      (searches : Searches (validate validator) (candidateTexts host) history (.ok none))
      (permitted : allowed = true) (error : Error) (resolution : error.isA .hostResolution = true) :
      Locates host allowed
        (.asked (.probe host) (.ok validator) :: (history ++
          [.asked (.canonicalize host) (.error error),
            .logged (.canonicalizationFailed host error.message)]))
        (.ok (none, host))
  | resolutionEscaped {history : List (Happening (collaborators V))} (validator : V)
      (searches : Searches (validate validator) (candidateTexts host) history (.ok none))
      (permitted : allowed = true) (error : Error)
      (escapes : error.isA .hostResolution = false) :
      Locates host allowed
        (.asked (.probe host) (.ok validator) :: (history ++
          [.asked (.canonicalize host) (.error error)]))
        (.error error)
  | canonical {history others : List (Happening (collaborators V))}
      {outcome : Except Error (Option Realm)} (validator : V)
      (searches : Searches (validate validator) (candidateTexts host) history (.ok none))
      (permitted : allowed = true) (name : String)
      (again : Searches (validate validator) (candidateTexts name) others outcome) :
      Locates host allowed
        (.asked (.probe host) (.ok validator) :: (history ++
          .asked (.canonicalize host) (.ok name) :: others))
        ((·, name) <$> outcome)

/-- Every way of looking for the realm of a host is listed. -/
theorem path_realmOfHost {host : String} {allowed : Bool}
    {history : List (Happening (collaborators V))}
    {outcome : Except Error (Option Realm × String)}
    (path : (realmOfHost host allowed).run.Path history outcome) :
    Locates host allowed history outcome := by
  unfold realmOfHost at path
  rcases Action.path_bind path with
    ⟨error, probing, rfl⟩ | ⟨validator, _, later, rfl, probing, path⟩
  · rw [path_probe probing]
    exact .probeRaised error
  rw [path_probe probing, List.singleton_append]
  rcases Action.path_bind path with
    ⟨error, searching, rfl⟩ | ⟨found, first, _, rfl, searching, path⟩
  · exact .searchRaised validator error (Realm.path_find searching)
  have searches := Realm.path_find searching
  cases found with
  | some realm =>
    obtain ⟨rfl, rfl⟩ := Action.path_pure path
    rw [List.append_nil]
    exact .found validator realm searches
  | none =>
  -- the host itself yields nothing: the canonical name is next, if it is allowed
  cases allowed with
  | false =>
    obtain ⟨rfl, rfl⟩ := Action.path_pure path
    rw [List.append_nil]
    exact .unfound validator searches rfl
  | true =>
  rcases Action.path_bind path with ⟨_, resolving, _⟩ | ⟨result, _, _, rfl, resolving, path⟩
  · obtain ⟨_, contradiction, _⟩ := Action.path_attempt resolving
    cases contradiction
  obtain ⟨_, attempted, resolving⟩ := Action.path_attempt resolving
  cases attempted
  rw [path_canonicalize resolving, List.singleton_append]
  cases result with
  | ok name =>
    rcases Action.path_bind path with ⟨error, again, rfl⟩ | ⟨realm, _, _, rfl, again, path⟩
    · exact .canonical validator searches rfl name (Realm.path_find again)
    · obtain ⟨rfl, rfl⟩ := Action.path_pure path
      rw [List.append_nil]
      exact .canonical validator searches rfl name (Realm.path_find again)
  | error error =>
    cases resolution : error.isA .hostResolution with
    | false =>
      simp only [resolution, Bool.false_eq_true, if_false] at path
      obtain ⟨rfl, rfl⟩ := Action.path_throw path
      exact .resolutionEscaped validator searches rfl error resolution
    | true =>
      simp only [resolution, if_true] at path
      obtain ⟨_, rfl, logged⟩ := Action.path_log_bind path
      obtain ⟨rfl, rfl⟩ := Action.path_pure logged
      exact .unresolved validator searches rfl error resolution

/-- A text is completed with the realm of its host, if it is a name without a realm and one is
found. -/
inductive Enriches (spn : String) (allowed : Bool) :
    List (Happening (collaborators V)) → Except Error String → Prop where
  | foreign (unread : ServiceName.parse? spn = none) : Enriches spn allowed [] (.ok spn)
  | qualified {name : ServiceName} (read : ServiceName.parse? spn = some name)
      (qualified : name.realm.isSome = true) : Enriches spn allowed [] (.ok spn)
  | raised {name : ServiceName} {history : List (Happening (collaborators V))} {error : Error}
      (read : ServiceName.parse? spn = some name) (unqualified : name.realm = none)
      (locates : Locates name.host allowed history (.error error)) :
      Enriches spn allowed history (.error error)
  | enriched {name : ServiceName} {history : List (Happening (collaborators V))} {realm : Realm}
      {host : String} (read : ServiceName.parse? spn = some name) (unqualified : name.realm = none)
      (locates : Locates name.host allowed history (.ok (some realm, host))) :
      Enriches spn allowed history (.ok (name.withRealm realm (some host)).text)
  | unenriched {name : ServiceName} {history : List (Happening (collaborators V))} {host : String}
      (read : ServiceName.parse? spn = some name) (unqualified : name.realm = none)
      (locates : Locates name.host allowed history (.ok (none, host))) :
      Enriches spn allowed (history ++ [.logged (.realmNotFound spn)]) (.ok spn)

/-- Every way of completing a text is listed. -/
theorem path_enrich {spn : String} {allowed : Bool} {history : List (Happening (collaborators V))}
    {outcome : Except Error String} (path : (enrich spn allowed).run.Path history outcome) :
    Enriches spn allowed history outcome := by
  unfold enrich at path
  cases read : ServiceName.parse? spn with
  | none =>
    simp only [read] at path
    obtain ⟨rfl, rfl⟩ := Action.path_pure path
    exact .foreign read
  | some name =>
  simp only [read] at path
  cases realm : name.realm with
  | some given =>
    simp only [realm, Option.isSome_some, if_true] at path
    obtain ⟨rfl, rfl⟩ := Action.path_pure path
    exact .qualified read (by rw [realm]; rfl)
  | none =>
  simp only [realm, Option.isSome_none, Bool.false_eq_true, if_false] at path
  rcases Action.path_bind path with
    ⟨error, locating, rfl⟩ | ⟨⟨found, host⟩, first, _, rfl, locating, path⟩
  · exact .raised read realm (path_realmOfHost locating)
  have locates := path_realmOfHost locating
  cases found with
  | some realm' =>
    obtain ⟨rfl, rfl⟩ := Action.path_pure path
    rw [List.append_nil]
    exact .enriched read realm locates
  | none =>
    obtain ⟨_, rfl, logged⟩ := Action.path_log_bind path
    obtain ⟨rfl, rfl⟩ := Action.path_pure logged
    exact .unenriched read realm locates

end SignOn.Enrichment
