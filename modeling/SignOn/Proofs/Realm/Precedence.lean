import SignOn.Proofs.Profile.Configured
import SignOn.Proofs.Realm.Overlap

/-!
# Configured servers come first

A native configuration asks its locator for the servers of a realm only if its profile neither lists
servers of the realm nor forbids looking for them (`Decides`). Main statement: which servers it
comes to, what is asked on the way, and that where the profile decides, neither the servers nor the
verdicts on realms depend on the locator or on the world (`configured_before_located`).
-/

set_option autoImplicit false

namespace SignOn

open Dialogue (Answerer requests)

namespace Profile

/-- A profile decides about a realm: it lists servers, or it forbids looking for any. -/
def Decides (profile : Profile) (realm : String) : Prop :=
  (∃ servers, profile.ListsFirst realm servers) ∨ profile.ForbidsLookup

end Profile

namespace NativeConfiguration

/-- A server as the native configuration names it. -/
def serverText (server : String × Int) : String := server.1 ++ ":" ++ toString server.2

variable {configuration : NativeConfiguration} {realm : String}

/-- Servers that the profile lists are given without asking anybody. -/
theorem run_servers_of_listed {servers : List String}
    (listed : configuration.profile.ListsFirst realm servers) :
    (configuration.servers realm).run = .done (.ok servers) := by
  rw [NativeConfiguration.servers, Profile.configuredServers?_eq_some_iff.mpr listed]
  rfl

/-- Where no key lists servers first, there are none configured. -/
theorem configuredServers?_eq_none
    (unlisted : ∀ servers, ¬ configuration.profile.ListsFirst realm servers) :
    configuration.profile.configuredServers? realm = none := by
  rw [Option.eq_none_iff_forall_ne_some]
  intro servers found
  exact unlisted servers (Profile.configuredServers?_eq_some_iff.mp found)

/-- Where none are listed and looking for them is forbidden, a realm has no servers, and nobody is
asked. -/
theorem run_servers_of_forbidden
    (unlisted : ∀ servers, ¬ configuration.profile.ListsFirst realm servers)
    (forbidden : configuration.profile.ForbidsLookup) :
    (configuration.servers realm).run = .done (.ok []) := by
  rw [NativeConfiguration.servers, configuredServers?_eq_none unlisted,
    Profile.forbidsLookup_iff.mp forbidden]
  rfl

/-- Where the profile leaves it open, the servers are those of one look-up, in its order. -/
theorem run_servers_of_not_decides {σ : Type} (answer : Answerer world σ) (state : σ)
    (undecided : ¬ configuration.profile.Decides realm) :
    (configuration.servers realm).run.run answer state =
      let found := (locate configuration.locator realm).run.run answer state
      ⟨found.value.map (List.map serverText), found.history, found.state⟩ := by
  obtain ⟨unlisted, allowed⟩ := not_or.mp undecided
  rw [Profile.forbidsLookup_iff, Bool.not_eq_false] at allowed
  rw [NativeConfiguration.servers, configuredServers?_eq_none (not_exists.mp unlisted)]
  simp only [allowed, if_true, Action.run_bind, Dialogue.run_bind]
  cases ((locate configuration.locator realm).run.run answer state).value with
  | error error =>
    simp only [Dialogue.run_done, List.append_nil]
    rfl
  | ok found =>
    simp only [Action.run_pure, Dialogue.run_done, List.append_nil]
    rfl

/-- Where the profile decides, the servers are found without asking anything. -/
theorem run_servers_of_decides (decides : configuration.profile.Decides realm) :
    (configuration.servers realm).run =
      .done (.ok ((configuration.profile.configuredServers? realm).getD [])) := by
  by_cases listed : ∃ servers, configuration.profile.ListsFirst realm servers
  · obtain ⟨servers, listed⟩ := listed
    rw [run_servers_of_listed listed, Profile.configuredServers?_eq_some_iff.mpr listed]
    rfl
  · have forbidden := decides.resolve_left listed
    rw [not_exists] at listed
    rw [run_servers_of_forbidden listed forbidden, configuredServers?_eq_none listed]
    rfl

end NativeConfiguration

namespace Realm

open NativeConfiguration (locate serverText)

variable {configuration : NativeConfiguration} {realm : String}

/-- Where the profile decides, the native validator accepts the realms with servers, without asking
anybody. -/
theorem run_nativeAccepts_of_decides (decides : configuration.profile.Decides realm) :
    (Validator.nativeAccepts configuration realm).run =
      .done (.ok (!((configuration.profile.configuredServers? realm).getD []).isEmpty)) := by
  unfold Validator.nativeAccepts
  rw [Action.run_bind, Action.run_attempt, NativeConfiguration.run_servers_of_decides decides]
  rfl

/-- Where the profile decides about the impossible realm, the test passes if it lists no servers of
it. -/
theorem run_passesSelfTest_of_decides {host : String}
    (decides : configuration.profile.Decides (Validator.impossibleStart ++ host)) :
    (Validator.passesSelfTest configuration host).run =
      .done (.ok ((configuration.profile.configuredServers?
        (Validator.impossibleStart ++ host)).getD []).isEmpty) := by
  unfold Validator.passesSelfTest
  rw [Action.run_bind, run_nativeAccepts_of_decides decides, Dialogue.done_bind]
  simp

/-- A realm whose servers cannot be looked for is rejected. -/
theorem value_nativeAccepts_of_error {σ : Type} {answer : Answerer world σ} {state : σ}
    {error : Error} (caught : error.isA .system = true ∨ error.isA .value = true)
    (failed : ((configuration.servers realm).run.run answer state).value = .error error) :
    ((Validator.nativeAccepts configuration realm).run.run answer state).value = .ok false := by
  have handled : (error.isA .system || error.isA .value) = true := by simpa using caught
  unfold Validator.nativeAccepts
  simp only [Action.run_bind, Action.run_attempt, Dialogue.run_bind, failed, Dialogue.run_done]
  simp only [handled, if_true]
  rfl

/-- The servers that the profile lists first come first, and then nothing is asked. If it lists
none, but forbids looking for them, there are none, and nothing is asked. Otherwise they are those
of one look-up for the realm itself, in its order. So where the profile decides, neither the locator
nor the world has a part in the servers, in the verdict on a realm or in the test with a realm that
cannot exist; and a look-up that fails as the operating system or as a wrong value does is a
rejection. -/
theorem configured_before_located (configuration : NativeConfiguration) (realm : String) {σ : Type}
    (answer : Answerer world σ) (state : σ) :
    let profile := configuration.profile
    let outcome := (configuration.servers realm).run.run answer state
    let found := (locate configuration.locator realm).run.run answer state
    (∀ servers, profile.ListsFirst realm servers → outcome = ⟨.ok servers, [], state⟩) ∧
      ((∀ servers, ¬ profile.ListsFirst realm servers) → profile.ForbidsLookup →
        outcome = ⟨.ok [], [], state⟩) ∧
      (¬ profile.Decides realm →
        outcome = ⟨found.value.map (List.map serverText), found.history, found.state⟩ ∧
          (configuration.locator = .application → outcome.history =
            [.asked (.kdcServers realm) (answer (.kdcServers realm) state).1]) ∧
          ∀ error, found.value = .error error → error.isA .system = true ∨ error.isA .value = true →
            ((Validator.nativeAccepts configuration realm).run.run answer state).value =
              .ok false) ∧
      ∀ (other : NativeConfiguration) (τ : Type) (answer' : Answerer world τ) (state' : τ),
        other.profile = profile →
          (profile.Decides realm →
            ((other.servers realm).run.run answer' state').value = outcome.value ∧
            ((Validator.nativeAccepts other realm).run.run answer' state').value =
              ((Validator.nativeAccepts configuration realm).run.run answer state).value) ∧
          ∀ host, profile.Decides (Validator.impossibleStart ++ host) →
            ((Validator.passesSelfTest other host).run.run answer' state').value =
              ((Validator.passesSelfTest configuration host).run.run answer state).value := by
  refine ⟨?_, ?_, ?_, ?_⟩
  · intro servers listed
    rw [NativeConfiguration.run_servers_of_listed listed]
    rfl
  · intro unlisted forbidden
    rw [NativeConfiguration.run_servers_of_forbidden unlisted forbidden]
    rfl
  · intro undecided
    have looked := NativeConfiguration.run_servers_of_not_decides answer state undecided
    refine ⟨looked, ?_, ?_⟩
    · intro locator
      rw [looked, locator]
      rfl
    · intro error failed caught
      apply value_nativeAccepts_of_error caught
      rw [looked]
      show Except.map (List.map serverText) _ = _
      rw [failed]
      rfl
  · -- the two configurations share a profile, and where it decides nothing else is looked at
    intro other τ answer' state' same
    constructor
    · intro decides
      have decides' : other.profile.Decides realm := same ▸ decides
      rw [NativeConfiguration.run_servers_of_decides decides,
        NativeConfiguration.run_servers_of_decides decides', run_nativeAccepts_of_decides decides,
        run_nativeAccepts_of_decides decides', same]
      exact ⟨rfl, rfl⟩
    · intro host decides
      have decides' : other.profile.Decides (Validator.impossibleStart ++ host) := same ▸ decides
      rw [run_passesSelfTest_of_decides decides, run_passesSelfTest_of_decides decides', same]
      rfl

/-- A configuration whose profile writes a realm in three ways, the first time without servers, and
forbids looking for others. -/
def threeSpellings : NativeConfiguration where
  profile :=
    ⟨[("realms", [("a.com.kdc", []), ("A.com.kdc", ["one", "two"]), ("A.COM.kdc", ["three"])]),
      ("libdefaults", [("dns_lookup_kdc", [" No", "yes"])])]⟩
  locator := .application

/-- A world in which looking for servers fails. -/
def unreachable : Simulation.World where
  servers := [("*", .error (Simulation.failure .system "unreachable"))]

/-- Servers that are listed shield from a look-up that would fail, and so does forbidding it; where
the profile is empty, the failing look-up rejects the realm. -/
theorem spellings_shielded :
    let answer : Answerer world Unit := fun request state => (unreachable.reply request, state)
    threeSpellings.profile.ListsFirst "A.COM" ["one", "two"] ∧
      (threeSpellings.servers "A.COM").run.run answer () = ⟨.ok ["one", "two"], [], ()⟩ ∧
      (threeSpellings.servers "B.COM").run.run answer () = ⟨.ok [], [], ()⟩ ∧
      ((Validator.passesSelfTest { threeSpellings with locator := .dns } "B.COM").run.run
          answer ()).value =
        ((Validator.passesSelfTest threeSpellings "B.COM").run.run answer ()).value ∧
      ((Validator.nativeAccepts { locator := .application } "B.COM").run.run answer ()).value =
        .ok false := by
  intro answer
  have listed : threeSpellings.profile.ListsFirst "A.COM" ["one", "two"] :=
    Profile.configuredServers?_eq_some_iff.mp (by decide +kernel)
  have forbidden : threeSpellings.profile.ForbidsLookup :=
    Profile.forbidsLookup_iff.mpr (by decide +kernel)
  have unlisted : ∀ servers, ¬ threeSpellings.profile.ListsFirst "B.COM" servers := by
    intro servers lists
    have found := Profile.configuredServers?_eq_some_iff.mpr lists
    have nothing : threeSpellings.profile.configuredServers? "B.COM" = none := by decide +kernel
    rw [nothing] at found
    cases found
  have undecided : ¬ ({} : Profile).Decides "B.COM" := by
    rintro (⟨servers, lists⟩ | forbids)
    · cases Profile.configuredServers?_eq_some_iff.mpr lists
    · cases Profile.forbidsLookup_iff.mp forbids
  have of_listed := configured_before_located threeSpellings "A.COM" answer ()
  have of_forbidden := configured_before_located threeSpellings "B.COM" answer ()
  have of_open := configured_before_located { locator := .application } "B.COM" answer ()
  refine ⟨listed, of_listed.1 _ listed, of_forbidden.2.1 unlisted forbidden, ?_, ?_⟩
  · exact (of_forbidden.2.2.2 { threeSpellings with locator := .dns } Unit answer () rfl).2 "B.COM"
      (.inr forbidden)
  · exact (of_open.2.2.1 undecided).2.2 _ rfl (.inl rfl)

end Realm

end SignOn
