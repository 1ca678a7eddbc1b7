import SignOn.Proofs.Enrichment.Steps
import SignOn.Proofs.ServiceName.Reading
import SignOn.Simulation.Tables

/-!
# Enrichment with steady collaborators

Where the validator for a host decides each candidate the same way on every call (`ValidatesBy`),
the only thing left open in enrichment is what the canonicalizer replies. `Located` and `Completed`
say what a host and a text come to, together with the canonical names that were asked for. Main
statement: where the canonicalizer is as steady, completing a completed text changes nothing
(`enrich_enrich`).
-/

set_option autoImplicit false

namespace SignOn.Enrichment

open Dialogue (Answerer Happening IsGivenBy isGivenBy_run)
open Realm (Searches candidateTexts among)

variable {V σ : Type} {answer : Answerer (collaborators V) σ}

/-! ## Steady collaborators -/

/-- There is a validator for every host, and on every call it decides about a candidate as `accepts`
says. -/
def ValidatesBy (answer : Answerer (collaborators V) σ) (accepts : String → String → Bool) : Prop :=
  ∀ host state, ∃ validator, (answer (.probe host) state).1 = .ok validator ∧
    ∀ candidate later,
      (answer (.validate validator candidate) later).1 = .ok (accepts host candidate)

/-- The validator that is given for a host decides as `accepts` says. -/
theorem ValidatesBy.decides {accepts : String → String → Bool}
    (validates : ValidatesBy answer accepts) {host : String} {state : σ} {validator : V}
    (probed : (answer (.probe host) state).1 = .ok validator) (candidate : String) (later : σ) :
    (answer (.validate validator candidate) later).1 = .ok (accepts host candidate) := by
  obtain ⟨other, probed', decides⟩ := validates host state
  rw [probed'] at probed
  cases probed
  exact decides candidate later

/-- The reply about a host with this canonical name; a host without one cannot be resolved. -/
inductive Resolves : Option String → Except Error String → Prop where
  | name (name : String) : Resolves (some name) (.ok name)
  | unresolved (error : Error) (resolution : error.isA .hostResolution = true) :
      Resolves none (.error error)

/-- On every call the canonicalizer gives a host the same canonical name, or none. -/
def CanonicalizesBy (answer : Answerer (collaborators V) σ) (canonical : String → Option String) :
    Prop :=
  ∀ host state, Resolves (canonical host) (answer (.canonicalize host) state).1

/-! ## Collaborators given by tables -/

section Tables

variable {enricher : Simulation.Enricher}

/-- Collaborators given by tables have no state. -/
def answerFrom (enricher : Simulation.Enricher) : Answerer (collaborators Unit) Unit :=
  fun request state => (enricher.reply request, state)

/-- Collaborators given by tables decide about candidates by the realms that they know. -/
theorem validatesBy_answerFrom : ValidatesBy (answerFrom enricher) (fun _ => enricher.knows) :=
  fun _ _ => ⟨(), rfl, fun _ _ => rfl⟩

/-- What is known to be a realm holds no colon, if none of the realms does. -/
theorem not_mem_of_knows (colonless : ∀ realm ∈ enricher.realms, ':' ∉ realm.toList)
    {candidate : String} (known : enricher.knows candidate = true) : ':' ∉ candidate.toList := by
  obtain ⟨realm, member, same⟩ := List.mem_map.mp (List.contains_iff_mem.mp known)
  rw [← Text.mem_upper_iff Text.isCaseless_colon, ← same,
    Text.mem_upper_iff Text.isCaseless_colon]
  exact colonless realm member

/-- The canonical name of a host in a table. -/
def canonicalFrom (enricher : Simulation.Enricher) (host : String) : Option String :=
  match enricher.canonical.find? host with
  | some (.ok name) => some name
  | _ => none

/-- A table without errors gives every host the same canonical name each time. -/
theorem canonicalizesBy_answerFrom
    (names : ∀ entry ∈ enricher.canonical, ∃ name, entry.2 = .ok name) :
    CanonicalizesBy (answerFrom enricher) (canonicalFrom enricher) := by
  intro host state
  show Resolves (canonicalFrom enricher host)
    ((enricher.canonical.find? host).getD (.error (.reported (.hostResolution host none))))
  rw [canonicalFrom]
  cases found : enricher.canonical.find? host with
  | none => exact .unresolved _ rfl
  | some entry =>
    obtain ⟨pair, first, rfl⟩ := Option.map_eq_some_iff.mp found
    obtain ⟨name, same⟩ := names pair (List.mem_reverse.mp (List.mem_of_find?_eq_some first))
    rw [same]
    exact .name name

end Tables

/-! ## Requests for canonical names -/

/-- The host whose canonical name is asked for, with the reply. -/
def resolution? : Happening (collaborators V) → Option (String × Except Error String)
  | .asked (.canonicalize host) reply => some (host, reply)
  | _ => none

/-- All hosts whose canonical names are asked for, with the replies. -/
def resolutions (history : List (Happening (collaborators V))) :
    List (String × Except Error String) :=
  history.filterMap resolution?

/-- Where nothing happens no canonical name is asked for. -/
@[simp] theorem resolutions_nil :
    resolutions ([] : List (Happening (collaborators V))) = [] := rfl

/-- What is asked for in two stretches is what is asked for in the one and then in the other. -/
@[simp] theorem resolutions_append (earlier later : List (Happening (collaborators V))) :
    resolutions (earlier ++ later) = resolutions earlier ++ resolutions later :=
  List.filterMap_append

/-- An event that is logged asks for no canonical name. -/
@[simp] theorem resolutions_logged (event : LogEvent) (later : List (Happening (collaborators V))) :
    resolutions (.logged event :: later) = resolutions later := rfl

/-- To ask for a validator asks for no canonical name. -/
@[simp] theorem resolutions_probe (host : String) (reply : Except Error V)
    (later : List (Happening (collaborators V))) :
    resolutions (.asked (.probe host) reply :: later) = resolutions later := rfl

/-- To canonicalize a host asks for its canonical name. -/
@[simp] theorem resolutions_canonicalize (host : String) (reply : Except Error String)
    (later : List (Happening (collaborators V))) :
    resolutions (.asked (.canonicalize host) reply :: later) =
      (host, reply) :: resolutions later := rfl

/-- The replies about canonical names are given by the collaborators. -/
theorem exists_state_of_mem_resolutions {history : List (Happening (collaborators V))}
    (given : ∀ happening ∈ history, IsGivenBy answer happening) {host : String}
    {reply : Except Error String} (member : (host, reply) ∈ resolutions history) :
    ∃ state, (answer (.canonicalize host) state).1 = reply := by
  obtain ⟨happening, inside, asks⟩ := List.mem_filterMap.mp member
  cases happening with
  | logged event => cases asks
  | asked request reply' =>
    cases request with
    | probe other => cases asks
    | validate validator candidate => cases asks
    | canonicalize other =>
      cases asks
      exact given _ inside

/-! ## Hosts -/

/-- A search with the validator for a host finds the realm in a name and asks for no canonical
name. -/
theorem searches_steady {accepts : String → String → Bool} (validates : ValidatesBy answer accepts)
    {host name : String} {validator : V}
    (probed : IsGivenBy answer (.asked (.probe host) (.ok validator)))
    {history : List (Happening (collaborators V))} {outcome : Except Error (Option Realm)}
    (searches : Searches (validate validator) (candidateTexts name) history outcome)
    (given : ∀ happening ∈ history, IsGivenBy answer happening) :
    outcome = .ok (among (accepts host) name) ∧ resolutions history = [] := by
  obtain ⟨state, probe⟩ := probed
  constructor
  · refine searches.outcome_eq ?_ given
    intro candidate first result path all
    rw [path_validate path, List.forall_mem_singleton] at all
    obtain ⟨later, reply⟩ := all
    rw [← reply]
    exact validates.decides probe candidate later
  · rw [resolutions, List.filterMap_eq_nil_iff]
    refine searches.forall_mem (fun _ => rfl) ?_
    intro candidate first result path
    rw [path_validate path, List.forall_mem_singleton]
    rfl

/-- A run of a search with the validator for a host finds the realm in the host's name. -/
theorem run_find {accepts : String → String → Bool} (validates : ValidatesBy answer accepts)
    {host : String} {probed : σ} {validator : V}
    (probe : (answer (.probe host) probed).1 = .ok validator) (state : σ) :
    ((Realm.find (validate validator) (some host)).run.run answer state).value =
      .ok (among (accepts host) host) :=
  (searches_steady validates ⟨probed, probe⟩ (Realm.path_find (Dialogue.run_path answer _ state))
    (isGivenBy_run answer _ state)).1

/-- What looking for the realm of a host comes to, where `accepts` decides about the candidates. -/
inductive Located (accepts : String → Bool) (host : String) (allowed : Bool) :
    List (String × Except Error String) → Except Error (Option Realm × String) → Prop where
  | here {realm : Realm} (found : among accepts host = some realm) :
      Located accepts host allowed [] (.ok (some realm, host))
  | nowhere (unfound : among accepts host = none) (forbidden : allowed = false) :
      Located accepts host allowed [] (.ok (none, host))
  | unresolved (unfound : among accepts host = none) (permitted : allowed = true) (error : Error)
      (resolution : error.isA .hostResolution = true) :
      Located accepts host allowed [(host, .error error)] (.ok (none, host))
  | raised (unfound : among accepts host = none) (permitted : allowed = true) (error : Error)
      (escapes : error.isA .hostResolution = false) :
      Located accepts host allowed [(host, .error error)] (.error error)
  | canonical (unfound : among accepts host = none) (permitted : allowed = true) (name : String)
      {realm : Option Realm} (found : among accepts name = realm) :
      Located accepts host allowed [(host, .ok name)] (.ok (realm, name))

/-- What locating a realm comes to depends on the candidates that are accepted. -/
theorem Locates.located {accepts : String → String → Bool} (validates : ValidatesBy answer accepts)
    {host : String} {allowed : Bool} {history : List (Happening (collaborators V))}
    {outcome : Except Error (Option Realm × String)}
    (locates : Locates host allowed history outcome)
    (given : ∀ happening ∈ history, IsGivenBy answer happening) :
    Located (accepts host) host allowed (resolutions history) outcome := by
  -- the searches only ask for verdicts, so the resolutions are those between them
  cases locates with
  | probeRaised error =>
    obtain ⟨state, raised⟩ := List.forall_mem_singleton.mp given
    obtain ⟨validator, probed, _⟩ := validates host state
    rw [probed] at raised
    cases raised
  | searchRaised validator error searches =>
    obtain ⟨probed, later⟩ := List.forall_mem_cons.mp given
    cases (searches_steady validates probed searches later).1
  | found validator realm searches =>
    obtain ⟨probed, later⟩ := List.forall_mem_cons.mp given
    obtain ⟨found, quiet⟩ := searches_steady validates probed searches later
    rw [resolutions_probe, quiet]
    exact .here (Except.ok.inj found).symm
  | unfound validator searches forbidden =>
    obtain ⟨probed, later⟩ := List.forall_mem_cons.mp given
    obtain ⟨unfound, quiet⟩ := searches_steady validates probed searches later
    rw [resolutions_probe, quiet]
    exact .nowhere (Except.ok.inj unfound).symm forbidden
  | unresolved validator searches permitted error resolution =>
    obtain ⟨probed, later⟩ := List.forall_mem_cons.mp given
    obtain ⟨unfound, quiet⟩ :=
      searches_steady validates probed searches (List.forall_mem_append.mp later).1
    rw [resolutions_probe, resolutions_append, quiet]
    exact .unresolved (Except.ok.inj unfound).symm permitted error resolution
  | resolutionEscaped validator searches permitted error escapes =>
    obtain ⟨probed, later⟩ := List.forall_mem_cons.mp given
    obtain ⟨unfound, quiet⟩ :=
      searches_steady validates probed searches (List.forall_mem_append.mp later).1
    rw [resolutions_probe, resolutions_append, quiet]
    exact .raised (Except.ok.inj unfound).symm permitted error escapes
  | canonical validator searches permitted name again =>
    obtain ⟨probed, later⟩ := List.forall_mem_cons.mp given
    obtain ⟨first, second⟩ := List.forall_mem_append.mp later
    obtain ⟨unfound, quiet⟩ := searches_steady validates probed searches first
    obtain ⟨found, quiet'⟩ :=
      searches_steady validates probed again (List.forall_mem_cons.mp second).2
    rw [resolutions_probe, resolutions_append, quiet, resolutions_canonicalize, quiet', found]
    exact .canonical (Except.ok.inj unfound).symm permitted name rfl

/-- What a run of looking for the realm of a host comes to. -/
theorem run_located {accepts : String → String → Bool} (validates : ValidatesBy answer accepts)
    (host : String) (allowed : Bool) (state : σ) :
    Located (accepts host) host allowed
      (resolutions ((realmOfHost host allowed).run.run answer state).history)
      ((realmOfHost host allowed).run.run answer state).value :=
  (path_realmOfHost (Dialogue.run_path answer _ state)).located validates
    (isGivenBy_run answer _ state)

/-! ## Texts -/

/-- A text that is a name at all names a realm. -/
def IsQualified (spn : String) : Prop :=
  ∀ name, ServiceName.parse? spn = some name → name.realm.isSome = true

/-- A qualified name has a realm. -/
theorem IsQualified.realm_ne_none {spn : String} {name : ServiceName} (qualified : IsQualified spn)
    (read : ServiceName.parse? spn = some name) : name.realm ≠ none := by
  intro unqualified
  have some := qualified name read
  rw [unqualified] at some
  cases some

/-- What completing a text comes to, where `accepts` decides about the candidates for each host. -/
inductive Completed (accepts : String → String → Bool) (spn : String) (allowed : Bool) :
    List (String × Except Error String) → Except Error String → Prop where
  | complete (qualified : IsQualified spn) : Completed accepts spn allowed [] (.ok spn)
  | raised {name : ServiceName} {requests : List (String × Except Error String)} {error : Error}
      (read : ServiceName.parse? spn = some name) (unqualified : name.realm = none)
      (located : Located (accepts name.host) name.host allowed requests (.error error)) :
      Completed accepts spn allowed requests (.error error)
  | enriched {name : ServiceName} {requests : List (String × Except Error String)} {realm : Realm}
      {host : String} (read : ServiceName.parse? spn = some name) (unqualified : name.realm = none)
      (located : Located (accepts name.host) name.host allowed requests (.ok (some realm, host))) :
      Completed accepts spn allowed requests (.ok (name.withRealm realm (some host)).text)
  | unenriched {name : ServiceName} {requests : List (String × Except Error String)} {host : String}
      (read : ServiceName.parse? spn = some name) (unqualified : name.realm = none)
      (located : Located (accepts name.host) name.host allowed requests (.ok (none, host))) :
      Completed accepts spn allowed requests (.ok spn)

/-- What completing a name comes to depends on the candidates that are accepted. -/
theorem Enriches.completed {accepts : String → String → Bool}
    (validates : ValidatesBy answer accepts) {spn : String} {allowed : Bool}
    {history : List (Happening (collaborators V))} {outcome : Except Error String}
    (enriches : Enriches spn allowed history outcome)
    (given : ∀ happening ∈ history, IsGivenBy answer happening) :
    Completed accepts spn allowed (resolutions history) outcome := by
  cases enriches with
  | foreign unread =>
    refine .complete ?_
    intro name read
    rw [unread] at read
    cases read
  | qualified read qualified =>
    refine .complete ?_
    intro name read'
    rw [read] at read'
    cases read'
    exact qualified
  | raised read unqualified locates =>
    exact .raised read unqualified (locates.located validates given)
  | enriched read unqualified locates =>
    exact .enriched read unqualified (locates.located validates given)
  | unenriched read unqualified locates =>
    rw [resolutions_append, resolutions_logged, resolutions_nil, List.append_nil]
    exact .unenriched read unqualified
      (locates.located validates (List.forall_mem_append.mp given).1)

/-- What a run comes to. -/
theorem run_completed {accepts : String → String → Bool} (validates : ValidatesBy answer accepts)
    (spn : String) (allowed : Bool) (state : σ) :
    Completed accepts spn allowed
      (resolutions ((enrich spn allowed).run.run answer state).history)
      ((enrich spn allowed).run.run answer state).value :=
  (path_enrich (Dialogue.run_path answer _ state)).completed validates
    (isGivenBy_run answer _ state)

/-! ## Completing twice -/

/-- A realm that is found is the one in the host name that goes with it. -/
theorem Located.among_eq {accepts : String → Bool} {host other : String} {allowed : Bool}
    {requests : List (String × Except Error String)} {realm : Realm}
    (located : Located accepts host allowed requests (.ok (some realm, other))) :
    among accepts other = some realm := by
  cases located with
  | here found => exact found
  | canonical unfound permitted name found => exact found

/-- A host that is resolved has the canonical name in the reply. -/
theorem Resolves.eq_some {canonical : Option String} {name : String}
    (resolves : Resolves canonical (.ok name)) : canonical = some name := by
  cases resolves
  rfl

/-- A host that is not resolved has no canonical name, and the error says so. -/
theorem Resolves.eq_none {canonical : Option String} {error : Error}
    (resolves : Resolves canonical (.error error)) :
    canonical = none ∧ error.isA .hostResolution = true := by
  cases resolves with
  | unresolved error resolution => exact ⟨rfl, resolution⟩

section Canonicalizer

variable {canonical : String → Option String} {first second : Bool}
  {requests others : List (String × Except Error String)}

/-- Nothing but an unresolved host goes wrong in looking for a realm. -/
theorem Located.not_error {accepts : String → Bool} {host : String} {error : Error}
    (resolve : ∀ reply, (host, reply) ∈ requests → ∃ canonical, Resolves canonical reply) :
    ¬ Located accepts host first requests (.error error) := by
  intro located
  cases located with
  | raised unfound permitted error escapes =>
    obtain ⟨canonical, resolves⟩ := resolve _ List.mem_cons_self
    rw [resolves.eq_none.2] at escapes
    cases escapes

/-- All replies about canonical names are as `canonical` says. -/
def AllResolve (canonical : String → Option String)
    (requests : List (String × Except Error String)) : Prop :=
  ∀ host reply, (host, reply) ∈ requests → Resolves (canonical host) reply

/-- Every reply about a host tells its canonical name, or that there is none. -/
theorem AllResolve.exists_resolves (resolve : AllResolve canonical requests) {host : String} :
    ∀ reply, (host, reply) ∈ requests → ∃ name, Resolves name reply := by
  intro reply member
  exact ⟨canonical host, resolve host reply member⟩

/-- Where no realm was found, none is found the second time. -/
theorem Located.none_again {accepts : String → Bool} {host other : String}
    {outcome : Except Error (Option Realm × String)} (permission : second = first ∨ second = false)
    (located : Located accepts host first requests (.ok (none, other)))
    (resolve : AllResolve canonical requests)
    (again : Located accepts host second others outcome)
    (resolve' : AllResolve canonical others) :
    ∃ last, outcome = .ok (none, last) := by
  have unfound : among accepts host = none := by cases located <;> assumption
  cases again with
  | here found =>
    rw [unfound] at found
    cases found
  | nowhere => exact ⟨_, rfl⟩
  | unresolved => exact ⟨_, rfl⟩
  | raised unfound permitted error escapes =>
    exact absurd (.raised unfound permitted error escapes)
      (Located.not_error resolve'.exists_resolves)
  | canonical _ permitted name found =>
    -- both times the canonical name is the same, and nothing was found for it the first time
    have known := (resolve' host _ List.mem_cons_self).eq_some
    cases located with
    | nowhere _ forbidden =>
      rw [permitted, forbidden] at permission
      rcases permission with contradiction | contradiction <;> cases contradiction
    | unresolved _ _ error =>
      rw [(resolve host _ List.mem_cons_self).eq_none.1] at known
      cases known
    | canonical _ _ name' nothing =>
      rw [(resolve host _ List.mem_cons_self).eq_some] at known
      cases known
      exact ⟨_, by rw [← found, nothing]⟩

/-- Completing a text does not fail. -/
theorem Completed.exists_eq_ok {accepts : String → String → Bool} {spn : String}
    {outcome : Except Error String} (completed : Completed accepts spn first requests outcome)
    (resolve : AllResolve canonical requests) :
    ∃ once, outcome = .ok once := by
  cases completed with
  | complete => exact ⟨_, rfl⟩
  | raised _ _ located => exact absurd located (Located.not_error resolve.exists_resolves)
  | enriched => exact ⟨_, rfl⟩
  | unenriched => exact ⟨_, rfl⟩

/-- A text that names a realm, if it is a name at all, stays as it is. -/
theorem Completed.eq_of_isQualified {accepts : String → String → Bool} {spn : String}
    {outcome : Except Error String} (completed : Completed accepts spn first requests outcome)
    (qualified : IsQualified spn) : outcome = .ok spn := by
  cases completed with
  | complete => rfl
  | raised read unqualified => exact absurd unqualified (qualified.realm_ne_none read)
  | enriched read unqualified => exact absurd unqualified (qualified.realm_ne_none read)
  | unenriched => rfl

/-- A text that was completed stays as it is. -/
theorem Completed.again {accepts : String → String → Bool} {spn once : String}
    {outcome : Except Error String} (permission : second = first ∨ second = false)
    (colonless : ∀ host candidate, accepts host candidate = true → ':' ∉ candidate.toList)
    (completed : Completed accepts spn first requests (.ok once))
    (resolve : AllResolve canonical requests)
    (again : Completed accepts once second others outcome)
    (resolve' : AllResolve canonical others) :
    outcome = .ok once := by
  cases completed with
  | complete qualified => exact again.eq_of_isQualified qualified
  | @enriched name requests realm host read unqualified located =>
    refine again.eq_of_isQualified ?_
    intro enriched found
    have colonfree : ':' ∉ realm.text.toList :=
      Realm.not_mem_text_of_among Text.isCaseless_colon located.among_eq
        (fun candidate _ => colonless name.host candidate)
    have qualified : (name.withRealm realm (some host)).realm = some realm := rfl
    exact ServiceName.realm_isSome_of_parse?_text qualified colonfree found
  | @unenriched name requests host read unqualified located =>
    cases again with
    | complete => rfl
    | raised read' unqualified' located' =>
      exact absurd located' (Located.not_error resolve'.exists_resolves)
    | enriched read' unqualified' located' =>
      rw [read] at read'
      cases read'
      obtain ⟨last, nothing⟩ := located.none_again permission resolve located' resolve'
      cases nothing
    | unenriched => rfl

end Canonicalizer

/-- Completing a completed text changes nothing, whether or not canonical names are still allowed:
for all collaborators that are steady and for every text, however the canonical names may look. -/
theorem enrich_enrich {accepts : String → String → Bool} {canonical : String → Option String}
    (validates : ValidatesBy answer accepts)
    (colonless : ∀ host candidate, accepts host candidate = true → ':' ∉ candidate.toList)
    (canonicalizes : CanonicalizesBy answer canonical) (spn : String) (first second : Bool)
    (permission : second = first ∨ second = false) (state later : σ) :
    ∃ once, ((enrich spn first).run.run answer state).value = .ok once ∧
      ((enrich once second).run.run answer later).value = .ok once := by
  have resolve : ∀ text allowed state, AllResolve canonical
      (resolutions ((enrich text allowed).run.run answer state).history) := by
    intro text allowed state host reply member
    obtain ⟨asked, rfl⟩ := exists_state_of_mem_resolutions (isGivenBy_run answer _ state) member
    exact canonicalizes host asked
  have completed := run_completed validates spn first state
  obtain ⟨once, outcome⟩ := completed.exists_eq_ok (resolve spn first state)
  rw [outcome] at completed
  refine ⟨once, outcome, ?_⟩
  exact completed.again permission colonless (resolve spn first state)
    (run_completed validates once second later) (resolve once second later)

/-- Collaborators with one realm, who know a full name for a short one. -/
def oneRealm : Simulation.Enricher where
  realms := ["EXAMPLE.COM"]
  canonical := [("db1", .ok "db1.example.com")]

/-- A short name that was completed is not completed again. -/
theorem short_name_completed_once :
    ∃ once,
      ((enrich "MSSQLSvc/db1:1433" true).run.run (answerFrom oneRealm) ()).value = .ok once ∧
      ((enrich once false).run.run (answerFrom oneRealm) ()).value = .ok once :=
  enrich_enrich validatesBy_answerFrom
    (fun _ _ => not_mem_of_knows (by simp [oneRealm]))
    (canonicalizesBy_answerFrom (by simp [oneRealm]))
    "MSSQLSvc/db1:1433" true false (.inr rfl) () ()

end SignOn.Enrichment
