import SignOn.Proofs.Enrichment.Steady
import SignOn.Proofs.Session.Calls

/-!
# The name of a session

Opening a session settles the service principal name of its server: the user's name, or one derived
from host and port, is completed with a realm (`start_completed`). Main statements: what a derived
name comes to for every host, port and canonical name (`start_derived`), and that the host and port
of a name that the user gave depend neither on a name service nor on the connection
(`start_given`).
-/

set_option autoImplicit false

namespace SignOn.Session

open Dialogue (Answerer Happening IsGivenBy isGivenBy_run)
open Enrichment (collaborators ValidatesBy Enriches Completed Located Resolves resolutions
  answerFrom oneRealm validatesBy_answerFrom)
open Realm (IsLongest candidateTexts among)

/-! ## Names before they are completed -/

section Settling

variable {I : Interface} {settings : Settings} {host : String} {port : Int}
  {history : List (Happening I)}

/-- Nothing happens but that events are logged. -/
def IsQuiet (history : List (Happening I)) : Prop :=
  ∀ happening ∈ history, ∃ event, happening = .logged event

/-- Where nothing happens nothing is asked. -/
theorem isQuiet_nil : IsQuiet ([] : List (Happening I)) := by
  intro happening member
  cases member

/-- An event that is logged asks nothing. -/
theorem IsQuiet.cons (event : LogEvent) (quiet : IsQuiet history) :
    IsQuiet (.logged event :: history) := by
  rw [IsQuiet, List.forall_mem_cons]
  exact ⟨⟨event, rfl⟩, quiet⟩

/-- The name that a session begins with. -/
def settled (settings : Settings) (host : String) (port : Int) : Except Error String :=
  match settings.serverSpn with
  | some given => ServiceName.normalized given settings.serverNameAsAce
  | none => ServiceName.derived host port settings.serverNameAsAce

/-- Settles the name that a session begins with. -/
def settle (settings : Settings) (host : String) (port : Int) : Action I String :=
  match settings.serverSpn with
  | some given => ServiceName.normalize given settings.serverNameAsAce
  | none => ServiceName.derive host port settings.serverNameAsAce

/-- To derive a name asks nothing. -/
theorem path_derive {ace : Bool} {outcome : Except Error String}
    (path : (ServiceName.derive host port ace : Action I String).run.Path history outcome) :
    outcome = ServiceName.derived host port ace ∧ IsQuiet history := by
  unfold ServiceName.derive at path
  obtain ⟨_, rfl, building⟩ := Action.path_log_bind path
  rcases Action.path_liftM_bind building with ⟨error, failed, rfl, rfl⟩ | ⟨spn, built, path⟩
  · exact ⟨failed.symm, isQuiet_nil.cons _⟩
  · obtain ⟨_, rfl, logged⟩ := Action.path_log_bind path
    obtain ⟨rfl, rfl⟩ := Action.path_pure logged
    exact ⟨built.symm, (isQuiet_nil.cons _).cons _⟩

/-- To put a name into its normal form asks nothing. -/
theorem path_normalize {given : String} {ace : Bool} {outcome : Except Error String}
    (path : (ServiceName.normalize given ace : Action I String).run.Path history outcome) :
    outcome = ServiceName.normalized given ace ∧ IsQuiet history := by
  unfold ServiceName.normalize at path
  dsimp only at path
  split at path
  · obtain ⟨_, rfl, logged⟩ := Action.path_log_bind path
    obtain ⟨rfl, rfl⟩ := Dialogue.path_done_iff.mp logged
    exact ⟨rfl, isQuiet_nil.cons _⟩
  · obtain ⟨rfl, rfl⟩ := Dialogue.path_done_iff.mp path
    exact ⟨rfl, isQuiet_nil⟩

/-- The name that a session begins with comes about without a question. -/
theorem path_settle {outcome : Except Error String}
    (path : (settle settings host port : Action I String).run.Path history outcome) :
    outcome = settled settings host port ∧ IsQuiet history := by
  unfold settle at path
  unfold settled
  split
  · rename_i given named
    rw [named] at path
    exact path_normalize path
  · rename_i unnamed
    rw [unnamed] at path
    exact path_derive path

end Settling

/-! ## Opening -/

variable {P : Peers} {V σ : Type} {answer : Answerer (collaborators V) σ}

/-- A session is opened with the help of collaborators. -/
def opening (P : Peers) (answer : Answerer (collaborators V) σ) (settings : Settings)
    (host : String) (port : Int) (state : σ) :
    Dialogue.Outcome (collaborators V) σ (Except Error (Session P)) :=
  (start settings host port : Action (collaborators V) (Session P)).run.run answer state

/-- A session is opened in two steps: its name is settled, and then completed. -/
theorem start_eq (settings : Settings) (host : String) (port : Int) :
    (start settings host port : Action (collaborators V) (Session P)) =
      (do
        let spn ← settle settings host port
        let enriched ← Enrichment.enrich spn settings.serverSpn.isNone
        if enriched != spn then Action.log (.session host port (.spnEnriched spn enriched))
        return opened host port settings enriched) := by
  unfold start settle
  cases settings.serverSpn <;> rfl

/-- Where only events are logged no canonical name is asked for. -/
theorem resolutions_of_isQuiet {history : List (Happening (collaborators V))}
    (quiet : IsQuiet history) : resolutions history = [] := by
  rw [resolutions, List.filterMap_eq_nil_iff]
  intro happening member
  obtain ⟨event, rfl⟩ := quiet happening member
  rfl

/-- A session is opened: its name is settled and completed, or one of the two fails. -/
inductive Opens (settings : Settings) (host : String) (port : Int) :
    List (Happening (collaborators V)) → Except Error (Session P) → Prop where
  | unsettled {history : List (Happening (collaborators V))} {error : Error}
      (failed : settled settings host port = .error error) (quiet : IsQuiet history) :
      Opens settings host port history (.error error)
  | settled {earlier middle later : List (Happening (collaborators V))} {spn : String}
      {outcome : Except Error String} (settles : settled settings host port = .ok spn)
      (quiet : IsQuiet earlier) (enriches : Enriches spn settings.serverSpn.isNone middle outcome)
      (quiet' : IsQuiet later) :
      Opens settings host port (earlier ++ (middle ++ later))
        (opened host port settings <$> outcome)

/-- Every way of opening a session is listed. -/
theorem path_start {settings : Settings} {host : String} {port : Int}
    {history : List (Happening (collaborators V))} {outcome : Except Error (Session P)}
    (path : (start settings host port : Action (collaborators V) (Session P)).run.Path
      history outcome) :
    Opens settings host port history outcome := by
  rw [start_eq] at path
  rcases Action.path_bind path with ⟨error, settling, rfl⟩ | ⟨spn, _, _, rfl, settling, rest⟩
  · obtain ⟨failed, quiet⟩ := path_settle settling
    exact .unsettled failed.symm quiet
  obtain ⟨settles, quiet⟩ := path_settle settling
  rcases Action.path_bind rest with ⟨error, enriching, rfl⟩ | ⟨enriched, _, _, rfl, enriching, path⟩
  · have opens := Opens.settled (P := P) settles.symm quiet (Enrichment.path_enrich enriching)
      isQuiet_nil
    rwa [List.append_nil] at opens
  have enriches := Enrichment.path_enrich enriching
  dsimp only at path
  split at path
  · obtain ⟨_, rfl, logged⟩ := Action.path_log_bind path
    obtain ⟨rfl, rfl⟩ := Action.path_pure logged
    exact .settled settles.symm quiet enriches (isQuiet_nil.cons _)
  · obtain ⟨rfl, rfl⟩ := Action.path_pure path
    exact .settled settles.symm quiet enriches isQuiet_nil

/-- What a session's name comes to. -/
theorem start_completed {accepts : String → String → Bool} (validates : ValidatesBy answer accepts)
    {settings : Settings} {host spn : String} {port : Int}
    (settles : settled settings host port = .ok spn) (state : σ) :
    ∃ outcome,
      (opening P answer settings host port state).value = opened host port settings <$> outcome ∧
      Completed accepts spn settings.serverSpn.isNone
        (resolutions (opening P answer settings host port state).history) outcome := by
  have given : ∀ happening ∈ (opening P answer settings host port state).history,
      IsGivenBy answer happening := isGivenBy_run answer _ state
  have opens : Opens settings host port (opening P answer settings host port state).history
      (opening P answer settings host port state).value :=
    path_start (Dialogue.run_path answer _ state)
  generalize (opening P answer settings host port state).history = history,
    (opening P answer settings host port state).value = value at given opens ⊢
  cases opens with
  | unsettled failed =>
    rw [settles] at failed
    cases failed
  | @settled earlier middle later spn' outcome settles' quiet enriches quiet' =>
    rw [settles] at settles'
    cases settles'
    refine ⟨outcome, rfl, ?_⟩
    simp only [Enrichment.resolutions_append, resolutions_of_isQuiet quiet,
      resolutions_of_isQuiet quiet', List.nil_append, List.append_nil]
    exact enriches.completed validates
      (List.forall_mem_append.mp (List.forall_mem_append.mp given).2).1

/-! ## Names with a realm -/

/-- A name with the realm that is found in a host name can be read back. -/
theorem isReadable_withRealm {accepts : String → Bool} {name : ServiceName} {host : String}
    {realm : Realm} (readable : name.IsReadable) (line : '\n' ∉ host.toList)
    (colonless : ∀ candidate, accepts candidate = true → ':' ∉ candidate.toList)
    (found : among accepts host = some realm) :
    (name.withRealm realm (some host)).IsReadable := by
  rw [ServiceName.withRealm_some (Realm.ne_empty_of_among found)]
  refine ⟨readable.service, line, readable.port, ?_⟩
  rintro _ ⟨⟩
  refine ⟨⟨mt String.toList_eq_nil_iff.mp (Realm.text_ne_empty_of_among found), ?_⟩, ?_⟩
  · refine Realm.not_mem_text_of_among Text.isCaseless_newline found ?_
    intro candidate member _ newline
    exact line (Realm.mem_of_mem_candidateTexts member newline)
  · exact Realm.not_mem_text_of_among Text.isCaseless_colon found
      (fun candidate _ => colonless candidate)

/-! ## Derived names -/

/-- The decimal text of a number can stand for a port. -/
theorem isPort_toString (port : Int) : ServiceName.IsPort (toString port).toList := by
  refine ⟨ServiceName.toString_ne_nil port, ?_⟩
  intro c member
  have known := ServiceName.isDigit_or_hyphen_of_mem_toString port c member
  rw [ServiceName.isPortChar_iff]
  constructor <;> rintro rfl <;> revert known <;> decide

/-- The name of a server on a host and port, without a realm. -/
def plainName (host : String) (port : Int) : ServiceName where
  host := host
  portOrInstance := toString port

/-- The text of a plain name is that of its host and port. -/
theorem text_plainName (host : String) (port : Int) :
    (plainName host port).text = ServiceName.textFor host port := rfl

/-- A plain name can be read back if its host is a single line. -/
theorem isReadable_plainName {host : String} (line : '\n' ∉ host.toList) (port : Int) :
    (plainName host port).IsReadable := by
  refine ⟨rfl, line, isPort_toString port, ?_⟩
  rintro _ ⟨⟩

/-- What the name derived for a host and port comes to, with the canonical names that are asked
for. -/
inductive Derives (accepts : String → Bool) (host : String) (port : Int) :
    List (String × Except Error String) → String → ServiceName → Prop where
  /-- Neither the host nor its canonical name, if there is one, yields a realm. -/
  | plain {spn : String} {name : ServiceName} {reply : Except Error String}
      (built : ServiceName.derived host port false = .ok spn) (realm : name.realm = none)
      (rejected : ∀ candidate ∈ candidateTexts host, accepts candidate = false)
      (rejected' : ∀ canonical, reply = .ok canonical →
        ∀ candidate ∈ candidateTexts canonical, accepts candidate = false) :
      Derives accepts host port [(host, reply)] spn name
  /-- The host yields a realm. -/
  | host {spn candidate : String} {name : ServiceName} (host_eq : name.host = host)
      (longest : IsLongest accepts host candidate) (realm : name.realm = some (.ofText candidate)) :
      Derives accepts host port [] spn name
  /-- Only the canonical name yields a realm. -/
  | canonical {spn canonical candidate : String} {name : ServiceName}
      (rejected : ∀ candidate ∈ candidateTexts host, accepts candidate = false)
      (host_eq : name.host = canonical) (longest : IsLongest accepts canonical candidate)
      (realm : name.realm = some (.ofText candidate)) :
      Derives accepts host port [(host, .ok canonical)] spn name

/-- A session without a name from the user has one that can be read back, with the port of the
connection. -/
theorem start_derived {accepts : String → String → Bool} (validates : ValidatesBy answer accepts)
    {settings : Settings} (unnamed : settings.serverSpn = none)
    (plain : settings.serverNameAsAce = false) {host : String} (line : '\n' ∉ host.toList)
    (colonless : ∀ candidate, accepts host candidate = true → ':' ∉ candidate.toList)
    (canonicalizes : ∀ state, ∃ canonical,
      Resolves canonical (answer (.canonicalize host) state).1 ∧
        ∀ name ∈ canonical, '\n' ∉ name.toList)
    (port : Int) (state : σ) :
    ∃ spn name,
      (opening P answer settings host port state).value = .ok (opened host port settings spn) ∧
      ServiceName.parse? spn = some name ∧ name.portOrInstance = toString port ∧
      Derives (accepts host) host port
        (resolutions (opening P answer settings host port state).history) spn name := by
  have settles : settled settings host port = .ok (ServiceName.textFor host port) := by
    rw [settled, unnamed, plain]
    rfl
  obtain ⟨outcome, value, completed⟩ := start_completed (P := P) validates settles state
  have resolve : ∀ reply,
      (host, reply) ∈ resolutions (opening P answer settings host port state).history →
      ∃ canonical, Resolves canonical reply ∧ ∀ name ∈ canonical, '\n' ∉ name.toList := by
    intro reply member
    obtain ⟨asked, rfl⟩ :=
      Enrichment.exists_state_of_mem_resolutions (isGivenBy_run answer _ state) member
    exact canonicalizes asked
  have read : ServiceName.parse? (ServiceName.textFor host port) = some (plainName host port) := by
    rw [← text_plainName]
    exact ServiceName.parse?_text (isReadable_plainName line port)
  rw [unnamed] at completed
  rw [value]
  generalize resolutions (opening P answer settings host port state).history = requests
    at completed resolve ⊢
  -- the name has no realm yet and nothing is raised, so it is enriched or stays as it is
  cases completed with
  | complete qualified => exact absurd rfl (qualified.realm_ne_none read)
  | raised read' unqualified located =>
    rw [read] at read'
    cases read'
    refine absurd located (Located.not_error ?_)
    intro reply member
    obtain ⟨canonical, resolves, _⟩ := resolve reply member
    exact ⟨canonical, resolves⟩
  | @enriched name requests realm other read' unqualified located =>
    rw [read] at read'
    cases read'
    have line' : '\n' ∉ other.toList := by
      cases located with
      | here => exact line
      | canonical =>
        obtain ⟨canonical, resolves, lines⟩ := resolve _ List.mem_cons_self
        exact lines other resolves.eq_some
    have found := located.among_eq
    -- the longest candidate has no colon in it, so the text with its realm can be read back
    have readable := isReadable_withRealm (isReadable_plainName line port) line' colonless found
    refine ⟨_, _, rfl, ServiceName.parse?_text readable, rfl, ?_⟩
    rw [ServiceName.withRealm_some (Realm.ne_empty_of_among found)]
    obtain ⟨candidate, longest, rfl⟩ := Realm.among_eq_some_iff.mp found
    cases located with
    | here => exact .host rfl longest rfl
    | canonical unfound => exact .canonical (Realm.among_eq_none_iff.mp unfound) rfl longest rfl
  | unenriched read' unqualified located =>
    rw [read] at read'
    cases read'
    refine ⟨_, _, rfl, read, rfl, ?_⟩
    cases located with
    | nowhere unfound forbidden => cases forbidden
    | unresolved unfound =>
      refine .plain rfl rfl (Realm.among_eq_none_iff.mp unfound) ?_
      rintro canonical ⟨⟩
    | canonical unfound permitted canonical nothing =>
      refine .plain rfl rfl (Realm.among_eq_none_iff.mp unfound) ?_
      rintro _ ⟨⟩
      exact Realm.among_eq_none_iff.mp nothing

/-- The name derived for a host with a short name. -/
theorem short_name_derived :
    ∃ spn name,
      (opening ⟨Unit, Unit, Unit⟩ (answerFrom oneRealm) {} "db1" 1433 ()).value =
        .ok (opened "db1" 1433 {} spn) ∧
      ServiceName.parse? spn = some name ∧ name.portOrInstance = toString (1433 : Int) ∧
      Derives oneRealm.knows "db1" 1433
        (resolutions
          (opening ⟨Unit, Unit, Unit⟩ (answerFrom oneRealm) {} "db1" 1433 ()).history) spn name :=
  start_derived validatesBy_answerFrom rfl rfl (by decide)
    (fun _ => Enrichment.not_mem_of_knows (by simp [oneRealm]))
    (fun state => ⟨_, Enrichment.canonicalizesBy_answerFrom (by simp [oneRealm]) "db1" state,
      by decide +kernel⟩)
    1433 ()

/-! ## Names that the user gave -/

/-- What a name comes to, where `found` is the realm of each host and no canonical name is asked
for. -/
inductive Qualifies (found : String → Option Realm) (spn : String) : String → Prop where
  | unchanged (nothing : ∀ name, ServiceName.parse? spn = some name → name.realm = none →
      found name.host = none) : Qualifies found spn spn
  | qualified {name : ServiceName} {realm : Realm} (read : ServiceName.parse? spn = some name)
      (unqualified : name.realm = none) (realm_eq : found name.host = some realm) :
      Qualifies found spn
        (databaseService ++ "/" ++ name.host ++ ":" ++ name.portOrInstance ++ "@" ++ realm.text)

/-- A name comes to one text. -/
theorem Qualifies.unique {found : String → Option Realm} {spn first second : String}
    (qualifies : Qualifies found spn first) (other : Qualifies found spn second) :
    first = second := by
  cases qualifies with
  | unchanged nothing =>
    cases other with
    | unchanged => rfl
    | qualified read unqualified realm_eq =>
      rw [nothing _ read unqualified] at realm_eq
      cases realm_eq
  | qualified read unqualified realm_eq =>
    cases other with
    | unchanged nothing =>
      rw [nothing _ read unqualified] at realm_eq
      cases realm_eq
    | qualified read' unqualified' realm_eq' =>
      rw [read] at read'
      cases read'
      rw [realm_eq] at realm_eq'
      cases realm_eq'
      rfl

/-- The text of a name that is completed on its own host. -/
theorem text_withRealm_host {accepts : String → Bool} {spn : String} {name : ServiceName}
    {realm : Realm} (read : ServiceName.parse? spn = some name)
    (found : among accepts name.host = some realm) :
    (name.withRealm realm (some name.host)).text =
      databaseService ++ "/" ++ name.host ++ ":" ++ name.portOrInstance ++ "@" ++ realm.text := by
  rw [ServiceName.withRealm_some (Realm.ne_empty_of_among found)]
  obtain ⟨_, _, _, _, _, _, rfl⟩ := ServiceName.parse?_eq_some_iff.mp read
  rfl

/-- Where canonical names are not allowed, none is asked for. -/
theorem qualifies_of_completed {accepts : String → String → Bool} {spn : String}
    {requests : List (String × Except Error String)} {outcome : Except Error String}
    (completed : Completed accepts spn false requests outcome) :
    requests = [] ∧
      ∃ text, outcome = .ok text ∧ Qualifies (fun host => among (accepts host) host) spn text := by
  cases completed with
  | complete qualified =>
    refine ⟨rfl, spn, rfl, .unchanged ?_⟩
    intro name read unqualified
    exact absurd unqualified (qualified.realm_ne_none read)
  | raised read unqualified located =>
    cases located with
    | raised unfound permitted => cases permitted
  | enriched read unqualified located =>
    cases located with
    | here found =>
      refine ⟨rfl, _, rfl, ?_⟩
      rw [text_withRealm_host read found]
      exact .qualified read unqualified found
    | canonical unfound permitted => cases permitted
  | unenriched read unqualified located =>
    cases located with
    | nowhere unfound =>
      refine ⟨rfl, _, rfl, .unchanged ?_⟩
      intro name read' _
      rw [read] at read'
      cases read'
      exact unfound
    | unresolved unfound permitted => cases permitted
    | canonical unfound permitted => cases permitted

/-- A text that a name comes to is read with the same host and port, unless a realm holds a
colon. -/
theorem Qualifies.parse? {accepts : String → String → Bool} {spn text : String}
    (qualifies : Qualifies (fun host => among (accepts host) host) spn text)
    (colonless : ∀ host candidate, accepts host candidate = true → ':' ∉ candidate.toList)
    {name : ServiceName} (read : ServiceName.parse? spn = some name) :
    ∃ again, ServiceName.parse? text = some again ∧ again.host = name.host ∧
      again.portOrInstance = name.portOrInstance := by
  cases qualifies with
  | unchanged => exact ⟨name, read, rfl, rfl⟩
  | @qualified _ realm read' unqualified found =>
    rw [read] at read'
    cases read'
    have readable : name.IsReadable := by
      refine ServiceName.isReadable_of_parse? read ?_
      rw [unqualified]
      rintro _ ⟨⟩
    have again := isReadable_withRealm readable readable.host (colonless name.host) found
    refine ⟨name.withRealm realm (some name.host), ?_, ?_, rfl⟩
    · rw [← text_withRealm_host read found]
      exact ServiceName.parse?_text again
    · rw [ServiceName.withRealm_some (Realm.ne_empty_of_among found)]

/-- A session with a name from the user. -/
theorem start_qualifies {accepts : String → String → Bool} (validates : ValidatesBy answer accepts)
    {settings : Settings} {given spn : String} (named : settings.serverSpn = some given)
    (normalizes : ServiceName.normalized given settings.serverNameAsAce = .ok spn)
    (host : String) (port : Int) (state : σ) :
    resolutions (opening P answer settings host port state).history = [] ∧
      ∃ text,
        (opening P answer settings host port state).value = .ok (opened host port settings text) ∧
        Qualifies (fun host => among (accepts host) host) spn text := by
  have settles : settled settings host port = .ok spn := by
    rw [settled, named]
    exact normalizes
  obtain ⟨outcome, value, completed⟩ := start_completed (P := P) validates settles state
  rw [named] at completed
  obtain ⟨quiet, text, rfl, qualifies⟩ := qualifies_of_completed completed
  exact ⟨quiet, text, value, qualifies⟩

/-- The name that the user gave is completed in the same way on every connection and with every
canonicalizer, and no canonicalizer is asked. The name keeps its host and port. -/
theorem start_given {W τ : Type} {other : Answerer (collaborators W) τ}
    {accepts : String → String → Bool} (validates : ValidatesBy answer accepts)
    (validates' : ValidatesBy other accepts) {settings : Settings} {given spn : String}
    (named : settings.serverSpn = some given)
    (normalizes : ServiceName.normalized given settings.serverNameAsAce = .ok spn)
    (host host' : String) (port port' : Int) (state : σ) (state' : τ) :
    ∃ text found,
      (opening P answer settings host port state).value = .ok (opened host port settings text) ∧
      (opening P other settings host' port' state').value =
        .ok (opened host' port' settings text) ∧
      resolutions (opening P answer settings host port state).history = [] ∧
      resolutions (opening P other settings host' port' state').history = [] ∧
      (∀ name validator probed searching, (answer (.probe name) probed).1 = .ok validator →
        ((Realm.find (Enrichment.validate validator) (some name)).run.run answer searching).value =
          .ok (found name)) ∧
      Qualifies found spn text ∧
      ((∀ name candidate, accepts name candidate = true → ':' ∉ candidate.toList) →
        ∀ name, ServiceName.parse? spn = some name →
          ∃ again, ServiceName.parse? text = some again ∧ again.host = name.host ∧
            again.portOrInstance = name.portOrInstance) := by
  obtain ⟨quiet, text, value, qualifies⟩ :=
    start_qualifies (P := P) validates named normalizes host port state
  obtain ⟨quiet', text', value', qualifies'⟩ :=
    start_qualifies (P := P) validates' named normalizes host' port' state'
  cases qualifies.unique qualifies'
  refine ⟨text, _, value, value', quiet, quiet', ?_, qualifies, ?_⟩
  · intro name validator probed searching probe
    exact Enrichment.run_find validates probe searching
  · intro colonless name read
    exact qualifies.parse? colonless read

/-- Collaborators that send hosts elsewhere. -/
def misleading : Simulation.Enricher where
  realms := ["EXAMPLE.COM"]
  canonical := [("db1", .ok "db2.example.com")]

/-- A short name that the user gave. -/
def shortName : Settings where
  serverSpn := some "MSSQLSvc/db1:1433"

/-- A short name that the user gave stays what it is, wherever the canonicalizer points to. -/
theorem short_name_kept :
    ∃ text,
      (opening ⟨Unit, Unit, Unit⟩ (answerFrom oneRealm) shortName "db1" 1433 ()).value =
        .ok (opened "db1" 1433 shortName text) ∧
      (opening ⟨Unit, Unit, Unit⟩ (answerFrom misleading) shortName "db2" 1434 ()).value =
        .ok (opened "db2" 1434 shortName text) ∧
      resolutions
        (opening ⟨Unit, Unit, Unit⟩ (answerFrom misleading) shortName "db2" 1434 ()).history =
          [] := by
  have validates : ValidatesBy (answerFrom oneRealm) (fun _ => oneRealm.knows) :=
    validatesBy_answerFrom
  have validates' : ValidatesBy (answerFrom misleading) (fun _ => oneRealm.knows) :=
    validatesBy_answerFrom
  have named : shortName.serverSpn = some "MSSQLSvc/db1:1433" := rfl
  have normalizes : ServiceName.normalized "MSSQLSvc/db1:1433" shortName.serverNameAsAce =
      .ok "MSSQLSvc/db1:1433" := rfl
  obtain ⟨text, _, value, value', _, quiet, _⟩ :=
    start_given validates validates' named normalizes "db1" "db2" 1433 1434 () ()
  exact ⟨text, value, value', quiet⟩

end SignOn.Session
