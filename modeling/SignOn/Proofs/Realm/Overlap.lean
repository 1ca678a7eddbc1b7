import SignOn.Proofs.Profile.Configured
import SignOn.Proofs.Realm.Searching
import SignOn.Realm.Validator
import SignOn.Simulation.Tables

/-!
# Where validators overlap

A native configuration looks realms up in the domain name system that its profile says nothing
about. For these it decides as the validator does that asks the domain name system alone: two runs
coincide if they ask for the same, in the same order, and come to the same (`Coincide`). Main
statement: the two validators coincide on every such realm, and searches for the realm of a host
name coincide whichever of them is asked (`validators_coincide`).
-/

set_option autoImplicit false

namespace SignOn

namespace Dialogue

variable {I : Interface} {σ α β : Type}

/-- What is asked for, in order. -/
def requests (history : List (Happening I)) : List I.Request :=
  history.filterMap fun happening =>
    match happening with
    | .asked request _ => some request
    | .logged _ => none

/-- Two runs ask for the same, in the same order, and come to the same value. -/
structure Coincide (first second : Outcome I σ (Except Error α)) : Prop where
  value : ∃ value, first.value = .ok value ∧ second.value = .ok value
  requests : requests first.history = requests second.history
  state : first.state = second.state

/-- An outcome with a value is that value. -/
theorem eq_ok_of_toOption {outcome : Except Error α} {value : α}
    (found : outcome.toOption = some value) : outcome = .ok value := by
  cases outcome with
  | error error => cases found
  | ok other => exact congrArg Except.ok (Option.some.inj found)

end Dialogue

open Dialogue (Answerer Coincide requests)

namespace Action

variable {I : Interface} {σ α β : Type} {answer : Answerer I σ}

/-- To return a value coincides with itself. -/
theorem coincide_pure (value : α) (state : σ) :
    Coincide ((pure value : Action I α).run.run answer state)
      ((pure value : Action I α).run.run answer state) :=
  ⟨⟨value, rfl, rfl⟩, rfl, rfl⟩

/-- To log an event coincides with itself. -/
theorem coincide_log (event : LogEvent) (state : σ) :
    Coincide ((log event : Action I Unit).run.run answer state)
      ((log event : Action I Unit).run.run answer state) :=
  ⟨⟨(), rfl, rfl⟩, rfl, rfl⟩

/-- Computations that begin with coinciding ones and go on so coincide. -/
theorem coincide_bind {first first' : Action I α} {next next' : α → Action I β} {state : σ}
    (firsts : Coincide (first.run.run answer state) (first'.run.run answer state))
    (nexts : ∀ value later,
      Coincide ((next value).run.run answer later) ((next' value).run.run answer later)) :
    Coincide ((first >>= next).run.run answer state) ((first' >>= next').run.run answer state) := by
  obtain ⟨⟨value, come, come'⟩, asked, states⟩ := firsts
  obtain ⟨values, asked', lasts⟩ := nexts value (first'.run.run answer state).state
  simp only [run_bind, Dialogue.run_bind, come, come', states]
  refine ⟨values, ?_, lasts⟩
  rw [requests, List.filterMap_append, ← requests, ← requests, asked, asked']
  simp [requests]

end Action

namespace Realm

/-! ## Candidates without a leading point -/

/-- What follows the next point of a text follows a point in it. -/
theorem suffix_of_afterNextPoint {text rest : List Char} (found : afterNextPoint text = some rest) :
    '.' :: rest <:+ text := by
  have after : ∀ {text rest : List Char}, afterNextPoint.afterPoint text = some rest →
      '.' :: rest <:+ text := by
    intro text
    induction text with
    | nil => simp [afterNextPoint.afterPoint]
    | cons c others ih =>
      intro rest found
      rw [afterNextPoint.afterPoint] at found
      split at found
      · rename_i point
        cases found
        subst point
        exact List.suffix_refl _
      · exact (ih found).trans (List.suffix_cons c others)
  cases text with
  | nil => cases found
  | cons c others => exact (after found).trans (List.suffix_cons c others)

/-- A host name that does not begin with a point and has no two points in a row gives no candidate
that begins with a point. -/
theorem head?_ne_of_mem_candidates {host candidate : List Char} (start : host.head? ≠ some '.')
    (apart : ¬ ['.', '.'] <:+: host) (member : candidate ∈ candidates host) :
    candidate.head? ≠ some '.' := by
  induction host using candidates.induct with
  | case1 host short =>
    rw [candidates_of_short short] at member
    cases member
  | case2 host long last =>
    rw [candidates_of_last long last, List.mem_singleton] at member
    rwa [member]
  | case3 host long rest found shorter ih =>
    rw [candidates_of_point long found] at member
    rcases List.mem_cons.mp member with rfl | later
    · exact start
    · have inside := suffix_of_afterNextPoint found
      refine ih ?_ ?_ later
      · -- a point at the start of the rest would be the second in a row
        intro point
        obtain ⟨others, rfl⟩ := List.head?_eq_some_iff.mp point
        exact apart ((List.prefix_append ['.', '.'] others).isInfix.trans inside.isInfix)
      · intro row
        exact apart (row.trans ((List.suffix_cons '.' rest).trans inside).isInfix)

/-! ## Look-ups -/

variable {σ : Type} {answer : Answerer world σ}

/-- Queries for service records give records, or fail as such queries may. -/
def LooksUp (answer : Answerer world σ) : Prop :=
  ∀ name state error, (answer (.serviceRecords name) state).1 = .error error →
    error.isA .dns = true

/-- The queries for the servers of a realm. -/
def queries (realm : String) : List World.Request :=
  [.serviceRecords (Dns.serviceName "_tcp" realm), .serviceRecords (Dns.serviceName "_udp" realm)]

/-- The records in a reply; none, if the query fails. -/
def published : Except Error (List ServiceRecord) → List ServiceRecord
  | .ok records => records
  | .error _ => []

/-- A query for service records comes to those in the reply. -/
theorem run_recordsOf (looksUp : LooksUp answer) (name : String) (state : σ) :
    ∃ history, (Dns.recordsOf name).run.run answer state =
        ⟨.ok (published (answer (.serviceRecords name) state).1), history,
          (answer (.serviceRecords name) state).2⟩ ∧
      requests history = [.serviceRecords name] := by
  unfold Dns.recordsOf World.serviceRecords
  simp only [Action.run_bind, Action.run_attempt, Action.run_ask, Dialogue.ask_bind,
    Dialogue.done_bind, Dialogue.run]
  cases reply : (answer (.serviceRecords name) state).1 with
  | ok records => exact ⟨_, rfl, rfl⟩
  | error error =>
    simp only [looksUp name state error reply, if_true]
    exact ⟨_, rfl, rfl⟩

/-- The servers of a realm are those in the replies to two queries, in order. -/
theorem run_discoverServers (looksUp : LooksUp answer) (realm : String) (state : σ) :
    let overTcp := answer (.serviceRecords (Dns.serviceName "_tcp" realm)) state
    let overUdp := answer (.serviceRecords (Dns.serviceName "_udp" realm)) overTcp.2
    ∃ history, (Dns.discoverServers realm).run.run answer state =
        ⟨.ok (((published overTcp.1 ++ published overUdp.1).mergeSort Dns.triedFirst).map
          Dns.serverOf), history, overUdp.2⟩ ∧
      requests history = queries realm := by
  intro overTcp overUdp
  unfold Dns.discoverServers
  obtain ⟨first, tcp, asked⟩ := run_recordsOf looksUp (Dns.serviceName "_tcp" realm) state
  obtain ⟨second, udp, asked'⟩ :=
    run_recordsOf looksUp (Dns.serviceName "_udp" realm) overTcp.2
  simp only [Action.run_bind, Dialogue.run_bind, tcp, overTcp, udp]
  refine ⟨_, rfl, ?_⟩
  simp only [requests] at asked asked'
  simp [requests, queries, asked, asked']

/-- A realm of two characters at least, not counting a leading point, exists if it publishes a
server. -/
theorem run_locateRealm {text realm : String} (named : Dns.withoutLeadingPoint text = realm)
    (long : 2 ≤ realm.length) {state after : σ} {servers : List (String × Int)}
    {history : List (Dialogue.Happening world)}
    (found : (Dns.discoverServers realm).run.run answer state = ⟨.ok servers, history, after⟩) :
    (Dns.locateRealm (some text)).run.run answer state =
      ⟨.ok (!servers.isEmpty),
        history ++ [.logged (.dnsRealmLookup realm (!servers.isEmpty))], after⟩ := by
  have enough : ¬ realm.length < 2 := Nat.not_lt.mpr long
  simp only [Dns.locateRealm, named, if_neg enough, Action.run_bind, Dialogue.run_bind, found]
  rfl

/-- A realm that is too short does not exist, and is not asked for. -/
theorem run_locateRealm_of_short {text realm : String}
    (named : Dns.withoutLeadingPoint text = realm) (short : realm.length < 2) (state : σ) :
    (Dns.locateRealm (some text)).run.run answer state = ⟨.ok false, [], state⟩ := by
  simp only [Dns.locateRealm, named, if_pos short]
  rfl

/-- There is nothing to drop from a realm that does not begin with a point. -/
theorem withoutLeadingPoint_eq_self {realm : String} (start : realm.toList.head? ≠ some '.') :
    Dns.withoutLeadingPoint realm = realm := by
  unfold Dns.withoutLeadingPoint
  split
  · rename_i rest chars
    simp [chars] at start
  · rfl

/-- The native configuration looks up the servers of a realm that its profile leaves open. -/
theorem run_servers {configuration : NativeConfiguration} (locator : configuration.locator = .dns)
    (allowed : configuration.profile.flag "libdefaults" "dns_lookup_kdc" true = true)
    {realm : String} (unknown : configuration.profile.configuredServers? realm = none)
    {state after : σ} {servers : List (String × Int)} {history : List (Dialogue.Happening world)}
    (found : (Dns.discoverServers realm).run.run answer state = ⟨.ok servers, history, after⟩) :
    (configuration.servers realm).run.run answer state =
      ⟨.ok (servers.map fun (host, port) => host ++ ":" ++ toString port), history, after⟩ := by
  simp only [NativeConfiguration.servers, NativeConfiguration.locate, locator, allowed, unknown,
    if_true, Action.run_bind, Dialogue.run_bind, found]
  simp

/-- The native configuration accepts a realm if it comes to a server of it. -/
theorem run_nativeAccepts {configuration : NativeConfiguration} {realm : String} {state after : σ}
    {servers : List String} {history : List (Dialogue.Happening world)}
    (found : (configuration.servers realm).run.run answer state = ⟨.ok servers, history, after⟩) :
    (Validator.nativeAccepts configuration realm).run.run answer state =
      ⟨.ok (!servers.isEmpty), history, after⟩ := by
  simp only [Validator.nativeAccepts, Action.run_bind, Action.run_attempt, Dialogue.run_bind, found]
  simp

/-! ## Validators -/

/-- Searches with validators that coincide on every candidate coincide. -/
theorem coincide_firstAccepted {accepts accepts' : String → Action world Bool}
    {texts : List String}
    (all : ∀ candidate ∈ texts, ∀ state, Coincide ((accepts candidate).run.run answer state)
      ((accepts' candidate).run.run answer state)) (state : σ) :
    Coincide ((firstAccepted accepts texts).run.run answer state)
      ((firstAccepted accepts' texts).run.run answer state) := by
  induction texts generalizing state with
  | nil => exact Action.coincide_pure _ state
  | cons candidate rest ih =>
    obtain ⟨here, others⟩ := List.forall_mem_cons.mp all
    unfold firstAccepted
    refine Action.coincide_bind (Action.coincide_log _ state) fun _ logged => ?_
    refine Action.coincide_bind (here logged) fun accepted later => ?_
    cases accepted with
    | true => exact Action.coincide_pure _ later
    | false => exact ih others later

section Native

variable {configuration : NativeConfiguration}

/-- A realm that the profile leaves open is decided alike by both validators, by two queries. -/
theorem coincide_accepts (looksUp : LooksUp answer) (locator : configuration.locator = .dns)
    (allowed : configuration.profile.flag "libdefaults" "dns_lookup_kdc" true = true)
    {realm : String} (long : 2 ≤ realm.length) (start : realm.toList.head? ≠ some '.')
    (unconfigured : ¬ configuration.profile.Configures realm) (state : σ) :
    Coincide (((Validator.native configuration).accepts realm).run.run answer state)
        ((Validator.dns.accepts realm).run.run answer state) ∧
      requests (((Validator.native configuration).accepts realm).run.run answer state).history =
        queries realm := by
  have given : realm ≠ "" := by
    rintro rfl
    cases long
  have unknown := (Profile.configuredServers?_eq_none_iff given).mpr unconfigured
  obtain ⟨history, found, asked⟩ := run_discoverServers looksUp realm state
  simp only [Validator.accepts, run_locateRealm (withoutLeadingPoint_eq_self start) long found,
    run_nativeAccepts (run_servers locator allowed unknown found), List.isEmpty_map]
  refine ⟨⟨⟨_, rfl, rfl⟩, ?_, rfl⟩, asked⟩
  simp [requests]

/-- Where the profile leaves a realm open and allows looking it up, both validators make the same
two queries and come to the same decision. So they find the same realm in a host name whose
candidates are all left open, if it neither begins with a point nor has two points in a row. -/
theorem validators_coincide (looksUp : LooksUp answer) (locator : configuration.locator = .dns)
    (allowed : configuration.profile.flag "libdefaults" "dns_lookup_kdc" true = true) :
    (∀ realm : String, 2 ≤ realm.length → realm.toList.head? ≠ some '.' →
      ¬ configuration.profile.Configures realm → ∀ state,
        Coincide (((Validator.native configuration).accepts realm).run.run answer state)
            ((Validator.dns.accepts realm).run.run answer state) ∧
          requests (((Validator.native configuration).accepts realm).run.run answer state).history =
            queries realm) ∧
    ∀ host : String, host.toList.head? ≠ some '.' → ¬ ['.', '.'] <:+: host.toList →
      (∀ candidate ∈ candidateTexts host, ¬ configuration.profile.Configures candidate) →
        ∀ state, Coincide
          ((find (Validator.native configuration).accepts (some host)).run.run answer state)
          ((find Validator.dns.accepts (some host)).run.run answer state) := by
  constructor
  · intro realm long start unconfigured state
    exact coincide_accepts looksUp locator allowed long start unconfigured state
  · intro host start apart unconfigured state
    refine coincide_firstAccepted (fun candidate member state => ?_) state
    obtain ⟨chars, found, rfl⟩ := List.mem_map.mp member
    have three := (isSuffix_of_mem_candidates found).2
    have long : 2 ≤ (String.ofList chars).length := by
      rw [String.length_ofList]
      omega
    have inner : (String.ofList chars).toList.head? ≠ some '.' := by
      rw [String.toList_ofList]
      exact head?_ne_of_mem_candidates start apart found
    exact (coincide_accepts looksUp locator allowed long inner (unconfigured _ member) state).1

end Native

/-- In a world given by tables, queries fail as the tables say or as they may. -/
theorem looksUp_of_services (tables : Simulation.World)
    (lookups : ∀ entry ∈ tables.services, ∀ error, entry.2 = .error error → error.isA .dns = true) :
    LooksUp fun request (state : Unit) => (tables.reply request, state) := by
  intro name state error failed
  simp only [Simulation.World.reply] at failed
  cases found : tables.services.find? name with
  | none =>
    simp only [found, Option.getD_none, Except.error.injEq] at failed
    rw [← failed]
    rfl
  | some reply =>
    obtain ⟨entry, first, rfl⟩ := Option.map_eq_some_iff.mp found
    simp only [found, Option.getD_some] at failed
    exact lookups entry (List.mem_reverse.mp (List.mem_of_find?_eq_some first)) error failed

/-- A world in which one realm publishes a server, over one protocol only. -/
def oneService : Simulation.World where
  services := [("_kerberos._udp.example.com", .ok [⟨"kdc.example.com.", 88, 0, 0⟩])]

/-- A configuration that knows the servers of another realm. -/
def otherRealm : NativeConfiguration where
  profile := ⟨[("realms", [("OTHER.COM.kdc", ["kdc.other.com"])])]⟩
  paths := ["/etc/krb5.conf"]

/-- Both validators find the realm in a host name, after two queries for the whole of it. -/
theorem same_realm_found :
    let answer : Answerer world Unit := fun request state => (oneService.reply request, state)
    let native := (find (Validator.native otherRealm).accepts (some "db1.Example.com")).run.run
      answer ()
    Coincide native ((find Validator.dns.accepts (some "db1.Example.com")).run.run answer ()) ∧
      native.value.toOption = some (some (.ofText "EXAMPLE.COM")) ∧
      requests native.history = queries "db1.Example.com" ++ queries "Example.com" := by
  have unconfigured : ∀ candidate ∈ candidateTexts "db1.Example.com",
      ¬ otherRealm.profile.Configures candidate := by
    intro candidate member
    rw [← Profile.configuredServers?_eq_none_iff (candidateTexts_ne_empty member)]
    revert candidate
    decide +kernel
  have looksUp := looksUp_of_services oneService (by simp [oneService])
  refine ⟨?_, by decide +kernel⟩
  exact (validators_coincide looksUp rfl (by decide +kernel)).2 "db1.Example.com"
    (by decide +kernel) (by decide +kernel) unconfigured ()

end Realm

end SignOn
