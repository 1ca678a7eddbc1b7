import SignOn.Enrichment
import SignOn.Proofs.Dialogue.Confined

/-!
# How a validator is selected

A selection loads the native configuration and tests it with a realm that cannot exist. Every way it
can go is listed (`Selects`): the native configuration is selected just if it could be loaded and
rejected that realm. A computation stays aside from selections if it neither opens profile files nor
selects a validator (`Aside`); whatever is done with a validator does, once it is selected.
-/

set_option autoImplicit false

namespace SignOn

open Dialogue (Happening)

namespace Realm

/-! ## Selections -/

/-- Selects a validator with the help of a host name. -/
def selection (host : String) : Action world Validator := do
  Validator.select (← NativeConfiguration.load none .dns) host

/-- A host's native configuration is loaded, with this outcome. -/
abbrev Loads (history : List (Happening world))
    (outcome : Except Error (Option NativeConfiguration)) : Prop :=
  (NativeConfiguration.load none .dns).run.Path history outcome

/-- A native configuration is asked about the realm that cannot exist, with this answer. -/
abbrev Tests (configuration : NativeConfiguration) (host : String)
    (history : List (Happening world)) (answer : Except Error Bool) : Prop :=
  ((Validator.native configuration).accepts (Validator.impossibleStart ++ host)).run.Path history
    answer

/-- A validator is selected with the help of a host name, or an error keeps it from being. -/
inductive Selects (host : String) : List (Happening world) → Except Error Validator → Prop where
  | unloaded {history : List (Happening world)} {error : Error}
      (loads : Loads history (.error error)) : Selects host history (.error error)
  | absent {history : List (Happening world)} (loads : Loads history (.ok none)) :
      Selects host (history ++ [.logged (.validatorSelected .dnsWithoutProfile)]) (.ok .dns)
  | untested {loading testing : List (Happening world)} {configuration : NativeConfiguration}
      {error : Error} (loads : Loads loading (.ok (some configuration)))
      (tests : Tests configuration host testing (.error error)) :
      Selects host (loading ++ testing) (.error error)
  | credulous {loading testing : List (Happening world)} {configuration : NativeConfiguration}
      (loads : Loads loading (.ok (some configuration)))
      (tests : Tests configuration host testing (.ok true)) :
      Selects host
        (loading ++ (testing ++ [.logged (.validatorSelected .dnsForCredulousProfile)])) (.ok .dns)
  | native {loading testing : List (Happening world)} {configuration : NativeConfiguration}
      (loads : Loads loading (.ok (some configuration)))
      (tests : Tests configuration host testing (.ok false)) :
      Selects host
        (loading ++ (testing ++ [.logged (.validatorSelected (.native configuration.paths))]))
        (.ok (.native configuration))

/-- A native configuration that was loaded is tested, and the test decides on the selection. -/
theorem path_select_some {configuration : NativeConfiguration} {host : String}
    {history : List (Happening world)} {outcome : Except Error Validator}
    (path : (Validator.select (some configuration) host).run.Path history outcome)
    {loading : List (Happening world)} (loads : Loads loading (.ok (some configuration))) :
    Selects host (loading ++ history) outcome := by
  unfold Validator.select Validator.passesSelfTest at path
  simp only [bind_assoc, pure_bind] at path
  rcases Action.path_bind path with
    ⟨error, tests, rfl⟩ | ⟨answer, testing, later, rfl, tests, path⟩
  · exact .untested loads tests
  · cases answer with
    | true =>
      obtain ⟨_, rfl, logged⟩ := Action.path_log_bind path
      obtain ⟨rfl, rfl⟩ := Action.path_pure logged
      exact .credulous loads tests
    | false =>
      obtain ⟨_, rfl, logged⟩ := Action.path_log_bind path
      obtain ⟨rfl, rfl⟩ := Action.path_pure logged
      exact .native loads tests

/-- Every way of selecting a validator is listed. -/
theorem path_selection {host : String} {history : List (Happening world)}
    {outcome : Except Error Validator} (path : (selection host).run.Path history outcome) :
    Selects host history outcome := by
  rcases Action.path_bind path with
    ⟨error, loads, rfl⟩ | ⟨configuration?, loading, later, rfl, loads, path⟩
  · exact .unloaded loads
  · cases configuration? with
    | none =>
      obtain ⟨_, rfl, logged⟩ := Action.path_log_bind path
      obtain ⟨rfl, rfl⟩ := Action.path_pure logged
      exact .absent loads
    | some configuration => exact path_select_some path loads

/-- At first a native configuration could be loaded, and it rejected the realm that cannot exist. -/
def Trusts (host : String) (configuration : NativeConfiguration)
    (history : List (Happening world)) : Prop :=
  ∃ loading testing rest, history = loading ++ (testing ++ rest) ∧
    Loads loading (.ok (some configuration)) ∧ Tests configuration host testing (.ok false)

/-- A native validator is selected just if its configuration could be loaded and rejected the realm
that cannot exist; what happens after the selection has no part in that. -/
theorem Selects.native_iff {host : String} {history : List (Happening world)}
    {validator : Validator} (selects : Selects host history (.ok validator))
    (rest : List (Happening world)) (configuration : NativeConfiguration) :
    validator = .native configuration ↔ Trusts host configuration (history ++ rest) := by
  constructor
  · rintro rfl
    cases selects with
    | native loads tests =>
      rw [List.append_assoc, List.append_assoc]
      exact ⟨_, _, _, rfl, loads, tests⟩
  · -- both loads go the same way through the history, and then so do both tests
    rintro ⟨loading, testing, rest', same, loads', tests'⟩
    cases selects with
    | absent loads =>
      simp only [List.append_assoc] at same
      cases (loads.unique loads' same).1
    | credulous loads tests =>
      simp only [List.append_assoc] at same
      obtain ⟨loaded, same⟩ := loads.unique loads' same
      cases loaded
      cases (tests.unique tests' same).1
    | native loads tests =>
      simp only [List.append_assoc] at same
      cases (loads.unique loads' same).1
      rfl

/-! ## Work aside from selections -/

/-- What happens only while a validator is selected. -/
def isOfSelection : Happening world → Bool
  | .asked .profileVariable _ | .asked (.file _) _ | .logged (.validatorSelected _) => true
  | _ => false

/-- A computation opens no profile files and selects no validator. -/
abbrev Aside {α : Type} (action : Action world α) : Prop :=
  Action.Confined (fun happening => isOfSelection happening = false) action

open SignOn.Action (confined_pure confined_throw confined_log confined_log_pure confined_ask)

/-- To ask for the records of a name selects nothing. -/
theorem aside_recordsOf (name : String) : Aside (Dns.recordsOf name) := by
  refine (Action.Confined.attempt (confined_ask fun _ => rfl)).bind fun result => ?_
  cases result with
  | ok records => exact confined_pure _
  | error error =>
    show Aside (if error.isA .dns then _ else _)
    split
    · exact confined_log_pure (by rfl) _
    · exact confined_throw _

/-- To look for the servers of a realm selects nothing. -/
theorem aside_discoverServers (realm : String) : Aside (Dns.discoverServers realm) :=
  (aside_recordsOf _).bind fun _ => (aside_recordsOf _).bind fun _ => confined_pure _

/-- To find out whether a realm has servers selects nothing. -/
theorem aside_locateRealm (realm : Option String) : Aside (Dns.locateRealm realm) := by
  cases realm with
  | none => exact confined_pure _
  | some text =>
    show Aside (if (Dns.withoutLeadingPoint text).length < 2 then _ else _)
    split
    · exact confined_pure _
    · exact (aside_discoverServers _).bind fun _ => confined_log_pure (by rfl) _

/-- To list the servers of a realm selects nothing. -/
theorem aside_servers (configuration : NativeConfiguration) (realm : String) :
    Aside (configuration.servers realm) := by
  have aside_locate : Aside (NativeConfiguration.locate configuration.locator realm) := by
    cases configuration.locator with
    | dns => exact aside_discoverServers realm
    | application => exact confined_ask fun _ => rfl
  unfold NativeConfiguration.servers
  split
  · exact confined_pure _
  · split
    · exact aside_locate.bind fun _ => confined_pure _
    · exact confined_pure _

/-- A validator that is asked about a realm selects nothing. -/
theorem aside_accepts (validator : Validator) (realm : String) :
    Aside (validator.accepts realm) := by
  cases validator with
  | dns => exact aside_locateRealm (some realm)
  | native configuration =>
    refine (Action.Confined.attempt (aside_servers configuration realm)).bind fun result => ?_
    cases result with
    | ok servers => exact confined_pure _
    | error error =>
      show Aside (if error.isA .system || error.isA .value then _ else _)
      split
      · exact confined_log_pure (by rfl) _
      · exact confined_throw _

/-- To canonicalize a host selects nothing. -/
theorem aside_canonicalName (host : String) : Aside (Dns.canonicalName host) := by
  refine (Action.Confined.attempt (confined_ask fun _ => rfl)).bind fun result => ?_
  match result with
  | .error error =>
    show Aside (if error.isA .addressLookup || error.isA .unicode then _ else _)
    split <;> exact confined_throw _
  | .ok [] => exact confined_throw _
  | .ok (address :: _) =>
    refine (Action.Confined.attempt (confined_ask fun _ => rfl)).bind fun result => ?_
    match result with
    | .error error =>
      show Aside (if error.isA .system then _ else _)
      split
      · exact confined_log_pure (by rfl) _
      · exact confined_throw _
    | .ok name => exact confined_log_pure (by rfl) name

/-- A search stays within what its events and its validator may do. -/
theorem confined_find {I : Interface} {holds : Happening I → Prop}
    {accepts : String → Action I Bool}
    (logs : ∀ candidate, holds (.logged (.realmCandidate candidate)))
    (accepting : ∀ candidate, Action.Confined holds (accepts candidate)) (host : Option String) :
    Action.Confined holds (find accepts host) := by
  have searching : ∀ texts, Action.Confined holds (firstAccepted accepts texts) := by
    intro texts
    induction texts with
    | nil => exact confined_pure _
    | cons candidate rest ih =>
      refine (confined_log (logs candidate)).bind fun _ => ?_
      refine (accepting candidate).bind fun answer => ?_
      cases answer with
      | true => exact confined_pure _
      | false => exact ih
  cases host with
  | none => exact confined_pure _
  | some name => exact searching _

end Realm

end SignOn
