import SignOn.Proofs.Enrichment.Steady
import SignOn.Proofs.Realm.Precedence
import SignOn.Proofs.Text.Ascii
import SignOn.Proofs.World.Orderly

/-!
# Realms in either case

The profile is searched for the upper case form of a realm, the domain name system for its lower
case form. ASCII texts that are equal up to case have both in common, so both validators decide
alike about them, by the same queries. A search asks about a candidate as it is written in the host
name, but the realm that it finds is in upper case. Main statement: where the domain name system
does not change, the validator accepts that realm too (`letter_case_does_not_matter`).
-/

set_option autoImplicit false

namespace SignOn

open Ace (isAscii)
open Dialogue (Answerer Coincide requests)
open Text (EqualUpToCase)

namespace Realm

variable {σ : Type} {answer : Answerer world σ} {first second : String}

/-! ## Verdicts in either case -/

/-- Texts that are equal up to case are so without a leading point. -/
theorem equalUpToCase_withoutLeadingPoint (equal : EqualUpToCase first second) :
    EqualUpToCase (Dns.withoutLeadingPoint first) (Dns.withoutLeadingPoint second) := by
  unfold Dns.withoutLeadingPoint
  split
  · rename_i rest chars
    obtain ⟨ascii, ascii', same⟩ := equal
    rw [chars] at ascii same
    obtain ⟨others, chars', sameRest⟩ :=
      Text.exists_of_sameLetters_cons Text.isCaseless_point same
    rw [chars'] at ascii'
    simp only [chars']
    refine ⟨?_, ?_, ?_⟩
    · simpa [isAscii] using ascii
    · simpa [isAscii] using ascii'
    · simpa using sameRest
  · rename_i pointless
    split
    · rename_i rest chars'
      have same := equal.same.symm
      rw [chars'] at same
      obtain ⟨others, chars, _⟩ := Text.exists_of_sameLetters_cons Text.isCaseless_point same
      exact absurd chars (pointless others)
    · exact equal

/-- Servers are discovered by one and the same procedure for names that differ in case only. -/
theorem discoverServers_eq (equal : EqualUpToCase first second) :
    Dns.discoverServers first = Dns.discoverServers second := by
  simp only [Dns.discoverServers, Dns.serviceName, equal.lower_eq]

/-- A realm has servers, or none, and to find them does not fail. -/
theorem exists_run_discoverServers (looksUp : LooksUp answer) (realm : String) (state : σ) :
    ∃ servers history after, (Dns.discoverServers realm).run.run answer state =
      ⟨.ok servers, history, after⟩ := by
  obtain ⟨history, found, _⟩ := run_discoverServers looksUp realm state
  exact ⟨_, _, _, found⟩

section Native

variable {configuration : NativeConfiguration}

/-- The servers that a configuration has for a realm do not depend on the case of its name, if its
locator uses the domain name system. -/
theorem servers_eq (locator : configuration.locator = .dns) (equal : EqualUpToCase first second) :
    configuration.servers first = configuration.servers second := by
  simp only [NativeConfiguration.servers, NativeConfiguration.locate, locator,
    Profile.configuredServers?, equal.upper_eq, discoverServers_eq equal]

/-- The native configuration comes to the servers of a realm, and does not fail. -/
theorem exists_run_servers (looksUp : LooksUp answer) (locator : configuration.locator = .dns)
    (realm : String) (state : σ) :
    ∃ servers history after, (configuration.servers realm).run.run answer state =
      ⟨.ok servers, history, after⟩ := by
  by_cases decides : configuration.profile.Decides realm
  · rw [NativeConfiguration.run_servers_of_decides decides]
    exact ⟨_, _, _, rfl⟩
  · obtain ⟨servers, history, after, found⟩ := exists_run_discoverServers looksUp realm state
    rw [NativeConfiguration.run_servers_of_not_decides answer state decides, locator]
    simp only [NativeConfiguration.locate, found]
    exact ⟨_, _, _, rfl⟩

/-- The native validator asks for the same and decides in the same way about such names. -/
theorem coincide_nativeAccepts (looksUp : LooksUp answer) (locator : configuration.locator = .dns)
    (equal : EqualUpToCase first second) (state : σ) :
    Coincide ((Validator.nativeAccepts configuration first).run.run answer state)
      ((Validator.nativeAccepts configuration second).run.run answer state) := by
  obtain ⟨servers, history, after, found⟩ := exists_run_servers looksUp locator first state
  have found' := found
  rw [servers_eq locator equal] at found'
  rw [run_nativeAccepts found, run_nativeAccepts found']
  exact ⟨⟨_, rfl, rfl⟩, rfl, rfl⟩

end Native

/-- So does the validator that looks for servers. -/
theorem coincide_locateRealm (looksUp : LooksUp answer) (equal : EqualUpToCase first second)
    (state : σ) : Coincide ((Dns.locateRealm (some first)).run.run answer state)
      ((Dns.locateRealm (some second)).run.run answer state) := by
  have names := equalUpToCase_withoutLeadingPoint equal
  by_cases short : (Dns.withoutLeadingPoint first).length < 2
  · have short' := short
    rw [names.length_eq] at short'
    rw [run_locateRealm_of_short rfl short, run_locateRealm_of_short rfl short']
    exact ⟨⟨_, rfl, rfl⟩, rfl, rfl⟩
  · have long := Nat.le_of_not_lt short
    have long' := long
    rw [names.length_eq] at long'
    obtain ⟨servers, history, after, found⟩ :=
      exists_run_discoverServers looksUp (Dns.withoutLeadingPoint first) state
    have found' := found
    rw [discoverServers_eq names] at found'
    rw [run_locateRealm rfl long found, run_locateRealm rfl long' found']
    exact ⟨⟨_, rfl, rfl⟩, by simp [requests], rfl⟩

/-- Both validators decide alike about texts that are equal up to case, by the same queries. -/
theorem coincide_of_equalUpToCase {validator : Validator} (default : validator.IsDefault)
    (looksUp : LooksUp answer) (equal : EqualUpToCase first second) (state : σ) :
    Coincide ((validator.accepts first).run.run answer state)
      ((validator.accepts second).run.run answer state) := by
  cases validator with
  | native configuration => exact coincide_nativeAccepts looksUp default equal state
  | dns => exact coincide_locateRealm looksUp equal state

/-! ## Verdicts in a world that does not change -/

/-- The replies to queries for service records do not change. -/
def IsFixed (answer : Answerer world σ) : Prop :=
  ∀ name state later, (answer (.serviceRecords name) state).1 =
    (answer (.serviceRecords name) later).1

/-- In a fixed world it does not matter when servers are discovered. -/
theorem value_discoverServers_eq (looksUp : LooksUp answer) (fixed : IsFixed answer)
    (realm : String) (state later : σ) :
    ((Dns.discoverServers realm).run.run answer state).value =
      ((Dns.discoverServers realm).run.run answer later).value := by
  obtain ⟨_, found, _⟩ := run_discoverServers looksUp realm state
  obtain ⟨_, found', _⟩ := run_discoverServers looksUp realm later
  rw [found, found']
  simp only [fixed _ state later]
  rw [fixed (Dns.serviceName "_udp" realm)]

/-- In a fixed world it does not matter when a configuration is asked for servers. -/
theorem value_servers_eq {configuration : NativeConfiguration} (looksUp : LooksUp answer)
    (fixed : IsFixed answer) (locator : configuration.locator = .dns) (realm : String)
    (state later : σ) :
    ((configuration.servers realm).run.run answer state).value =
      ((configuration.servers realm).run.run answer later).value := by
  by_cases decides : configuration.profile.Decides realm
  · rw [NativeConfiguration.run_servers_of_decides decides]
    rfl
  · rw [NativeConfiguration.run_servers_of_not_decides answer state decides,
      NativeConfiguration.run_servers_of_not_decides answer later decides, locator]
    exact congrArg (Except.map _) (value_discoverServers_eq looksUp fixed realm state later)

/-- There is one verdict on a text, whenever it is asked for. -/
theorem exists_verdict {validator : Validator} (default : validator.IsDefault)
    (looksUp : LooksUp answer) (fixed : IsFixed answer) (text : String) (state : σ) :
    ∃ verdict, ∀ later, ((validator.accepts text).run.run answer later).value = .ok verdict := by
  cases validator with
  | native configuration =>
    obtain ⟨servers, _, _, found⟩ := exists_run_servers looksUp default text state
    refine ⟨!servers.isEmpty, fun later => ?_⟩
    obtain ⟨others, _, _, found'⟩ := exists_run_servers looksUp default text later
    have same := value_servers_eq looksUp fixed default text state later
    rw [found, found'] at same
    cases same
    rw [Validator.accepts, run_nativeAccepts found']
  | dns =>
    by_cases short : (Dns.withoutLeadingPoint text).length < 2
    · refine ⟨false, fun later => ?_⟩
      rw [Validator.accepts, run_locateRealm_of_short rfl short]
    · obtain ⟨servers, _, _, found⟩ :=
        exists_run_discoverServers looksUp (Dns.withoutLeadingPoint text) state
      refine ⟨!servers.isEmpty, fun later => ?_⟩
      obtain ⟨others, _, _, found'⟩ :=
        exists_run_discoverServers looksUp (Dns.withoutLeadingPoint text) later
      have same := value_discoverServers_eq looksUp fixed (Dns.withoutLeadingPoint text) state later
      rw [found, found'] at same
      cases same
      rw [Validator.accepts, run_locateRealm rfl (Nat.le_of_not_lt short) found']

end Realm

namespace Enrichment

open Realm (IsFixed LooksUp Validator among)

variable {σ : Type} {answer : Answerer world σ} {validator : Validator}
  {canonical : String → σ → Except Error String × σ}

/-! ## Names that are completed -/

/-- The collaborators of enrichment with a validator at hand, which is asked in the world; canonical
names may come from anywhere. -/
def consulting (validator : Validator) (answer : Answerer world σ)
    (canonical : String → σ → Except Error String × σ) : Answerer (collaborators Validator) σ
  | .probe _, state => (.ok validator, state)
  | .validate other candidate, state =>
    let outcome := (other.accepts candidate).run.run answer state
    (outcome.value, outcome.state)
  | .canonicalize host, state => canonical host state

/-- A text is a name without a realm, and a realm is found for its host, together with the host name
that goes with it. -/
structure FindsRealm {V : Type} (answer : Answerer (collaborators V) σ) (spn : String)
    (allowed : Bool) (state : σ) (name : ServiceName) (realm : Realm) (host : String) : Prop where
  read : ServiceName.parse? spn = some name
  unqualified : name.realm = none
  located : ((realmOfHost name.host allowed).run.run answer state).value = .ok (some realm, host)

section Completing

variable {V : Type} {answer : Answerer (collaborators V) σ} {spn : String} {allowed : Bool}
  {state : σ}

/-- The name is completed with the realm that is found. -/
theorem FindsRealm.value_enrich {name : ServiceName} {realm : Realm} {host : String}
    (finds : FindsRealm answer spn allowed state name realm host) :
    ((enrich spn allowed).run.run answer state).value =
      .ok (name.withRealm realm (some host)).text := by
  unfold enrich
  simp only [finds.read, finds.unqualified, Option.isSome_none, Bool.false_eq_true, if_false,
    Action.run_bind, Dialogue.run_bind, finds.located]
  rfl

/-- A text that does not stay as it is is completed. -/
theorem exists_findsRealm {text : String}
    (completed : ((enrich spn allowed).run.run answer state).value = .ok text)
    (changed : text ≠ spn) :
    ∃ name realm host, FindsRealm answer spn allowed state name realm host := by
  unfold enrich at completed
  cases read : ServiceName.parse? spn with
  | none =>
    rw [read] at completed
    exact absurd (Except.ok.inj completed).symm changed
  | some name =>
    cases unqualified : name.realm with
    | some given =>
      simp only [read, unqualified, Option.isSome_some, if_true] at completed
      exact absurd (Except.ok.inj completed).symm changed
    | none =>
      simp only [read, unqualified, Option.isSome_none, Bool.false_eq_true, if_false,
        Action.run_bind, Dialogue.run_bind] at completed
      cases located : ((realmOfHost name.host allowed).run.run answer state).value with
      | error error =>
        simp [located] at completed
      | ok found =>
        obtain ⟨_ | realm, host⟩ := found
        · simp only [located] at completed
          exact absurd (Except.ok.inj completed).symm changed
        · exact ⟨name, realm, host, read, unqualified, located⟩

end Completing

/-- A validator whose verdicts are known gives enrichment these verdicts. -/
theorem validatesBy_consulting {verdicts : String → Bool}
    (decides : ∀ text state,
      ((validator.accepts text).run.run answer state).value = .ok (verdicts text)) :
    ValidatesBy (consulting validator answer canonical) fun _ => verdicts :=
  fun _ _ => ⟨validator, rfl, decides⟩

/-- The realm that is found lies in the host name that goes with it: the one that was given, or its
canonical name. -/
theorem FindsRealm.among_eq {verdicts : String → Bool}
    (decides : ∀ text state,
      ((validator.accepts text).run.run answer state).value = .ok (verdicts text))
    {spn : String} {allowed : Bool} {state : σ} {name : ServiceName} {realm : Realm} {host : String}
    (finds : FindsRealm (consulting validator answer canonical) spn allowed state name realm host) :
    among verdicts host = some realm ∧
      (host = name.host ∨ allowed = true ∧ ∃ asked, (canonical name.host asked).1 = .ok host) := by
  have validates : ValidatesBy (consulting validator answer canonical) fun _ => verdicts :=
    validatesBy_consulting decides
  have located := run_located validates name.host allowed state
  rw [finds.located] at located
  refine ⟨located.among_eq, ?_⟩
  generalize requested : resolutions _ = requests at located
  cases located with
  | here => exact .inl rfl
  | canonical _ permitted =>
    have given := Dialogue.isGivenBy_run (consulting validator answer canonical)
      (realmOfHost name.host allowed).run state
    refine .inr ⟨permitted, exists_state_of_mem_resolutions given ?_⟩
    rw [requested]
    exact List.mem_cons_self

end Enrichment

namespace Realm

open Enrichment

/-- Letter case does not matter to the validators: about ASCII texts that are equal up to case they
decide alike, by the same queries. So where the domain name system does not change, a realm that is
found for a name is accepted as it is written behind the completed name, in upper case, if the host
name that goes with it is an ASCII text. A text that does not stay as it is is such a name. -/
theorem letter_case_does_not_matter {σ : Type} {answer : Answerer world σ} {validator : Validator}
    (default : validator.IsDefault) (looksUp : LooksUp answer) :
    (∀ first second, EqualUpToCase first second → ∀ state,
      Coincide ((validator.accepts first).run.run answer state)
        ((validator.accepts second).run.run answer state)) ∧
    (IsFixed answer → ∀ (canonical : String → σ → Except Error String × σ) (spn : String)
      (allowed : Bool) (state : σ),
      let enricher := consulting validator answer canonical
      let outcome := ((enrich spn allowed).run.run enricher state).value
      (∀ name realm host, FindsRealm enricher spn allowed state name realm host →
        outcome = .ok (name.withRealm realm (some host)).text ∧
        (host = name.host ∨
          allowed = true ∧ ∃ asked, (canonical name.host asked).1 = .ok host) ∧
        (isAscii host.toList = true → ∀ later,
          ((validator.accepts realm.text).run.run answer later).value = .ok true)) ∧
      ∀ text, outcome = .ok text → text ≠ spn →
        ∃ name realm host, FindsRealm enricher spn allowed state name realm host) := by
  constructor
  · intro first second equal state
    exact coincide_of_equalUpToCase default looksUp equal state
  · intro fixed canonical spn allowed state enricher outcome
    refine ⟨?_, fun text completed changed => exists_findsRealm completed changed⟩
    intro name realm host finds
    -- in a fixed world the verdicts are a function of the text, so the realm found is among them
    obtain ⟨verdicts, decides⟩ := Classical.skolem.mp fun text =>
      exists_verdict default looksUp fixed text state
    obtain ⟨found, origin⟩ := finds.among_eq decides
    refine ⟨finds.value_enrich, origin, ?_⟩
    intro ascii later
    obtain ⟨candidate, longest, rfl⟩ := among_eq_some_iff.mp found
    have ascii_candidate : isAscii candidate.toList = true := by
      rw [Text.isAscii_iff] at ascii ⊢
      intro c inside
      exact ascii c (mem_of_mem_candidateTexts longest.1 inside)
    obtain ⟨⟨verdict, asked, again⟩, _, _⟩ := coincide_of_equalUpToCase default looksUp
      (Text.equalUpToCase_upper ascii_candidate) later
    rw [decides, longest.2.1] at asked
    cases asked
    exact again

/-- In the world of `oneService`, a validator accepts a realm in either case. A host given by its
address has a canonical name with capital and small letters, and the realm found there is accepted
in upper case. -/
theorem found_realm_accepted :
    let answer : Answerer world Unit := fun request state => (oneService.reply request, state)
    let accepts := fun text => ((Validator.native otherRealm).accepts text).run.run answer ()
    let enricher := consulting (.native otherRealm) answer fun _ state =>
      (.ok "db1.Example.com", state)
    Coincide (accepts "Example.com") (accepts "eXAMPLE.cOM") ∧
      ((enrich "MSSQLSvc/10.0.0.1:1433" true).run.run enricher ()).value =
        .ok "MSSQLSvc/db1.Example.com:1433@EXAMPLE.COM" ∧
      (accepts "EXAMPLE.COM").value = .ok true := by
  intro answer accepts enricher
  have looksUp := looksUp_of_services oneService (by simp [oneService])
  have default : (Validator.native otherRealm).IsDefault := rfl
  obtain ⟨alike, completes⟩ := letter_case_does_not_matter default looksUp
  have equal : EqualUpToCase "Example.com" "eXAMPLE.cOM" :=
    ⟨by decide +kernel, by decide +kernel, by decide +kernel⟩
  have finds : FindsRealm enricher "MSSQLSvc/10.0.0.1:1433" true ()
      { host := "10.0.0.1", portOrInstance := "1433" } (.ofText "EXAMPLE.COM") "db1.Example.com" :=
    ⟨by decide +kernel, rfl, Dialogue.eq_ok_of_toOption (by decide +kernel)⟩
  obtain ⟨completed, _, accepted⟩ :=
    (completes (fun _ _ _ => rfl) _ "MSSQLSvc/10.0.0.1:1433" true ()).1 _ _ _ finds
  exact ⟨alike _ _ equal (), completed, accepted (by decide +kernel) ()⟩

end Realm

end SignOn
