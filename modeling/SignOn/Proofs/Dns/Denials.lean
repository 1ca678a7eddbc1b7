import SignOn.Proofs.Dns.Discovery
import SignOn.Proofs.Realm.Inquiries

/-!
# What denials count for

A record whose target is the root states that there is no such service (`Denies`). To find the
servers of a realm is to take the points off the ends of targets, which leaves nothing of the root,
and to validate a realm is to see whether a record came at all. Main statement: an entry without a
host name comes from a record with nothing but points in its target, a realm is located if a record
names a server or if all there are deny it, and searches for the realm of a host end accordingly
(`located_named_or_denied`).
-/

set_option autoImplicit false

namespace SignOn.Dns

open Dialogue (Answerer Happening requests)
open Realm (GoesThrough Inquires Inquiry Validator queries)
open Text (upper)

/-! ## Records -/

/-- The records in the replies to queries, in order. -/
def replied (history : List (Happening world)) : List ServiceRecord :=
  history.flatMap fun happening =>
    match happening with
    | .asked (.serviceRecords _) (.ok records) => records
    | _ => []

/-- Where nothing is asked no record is received. -/
@[simp] theorem replied_nil : replied [] = [] := rfl

/-- The records received in two stretches are those in the one and then those in the other. -/
@[simp] theorem replied_append (earlier later : List (Happening world)) :
    replied (earlier ++ later) = replied earlier ++ replied later :=
  List.flatMap_append

/-- A record denies that there is such a service. -/
def Denies (record : ServiceRecord) : Prop := record.target = "."

/-- Whether a record denies the service can be decided. -/
instance : DecidablePred Denies :=
  fun record => inferInstanceAs (Decidable (record.target = "."))

/-- Some record does not deny the service. -/
def NamesServer (records : List ServiceRecord) : Prop := ∃ record ∈ records, ¬ Denies record

/-- There are records, and all of them deny the service. -/
def DeniesOnly (records : List ServiceRecord) : Prop :=
  records ≠ [] ∧ ∀ record ∈ records, Denies record

/-- Where there are records, one names a server or all deny the service. -/
theorem ne_nil_iff_names_or_denies (records : List ServiceRecord) :
    records ≠ [] ↔ NamesServer records ∨ DeniesOnly records := by
  constructor
  · intro given
    by_cases names : NamesServer records
    · exact .inl names
    · refine .inr ⟨given, fun record member => ?_⟩
      by_contra other
      exact names ⟨record, member, other⟩
  · rintro (⟨record, member, _⟩ | ⟨given, _⟩)
    · exact List.ne_nil_of_mem member
    · exact given

/-- Records that all deny the service name no server. -/
theorem DeniesOnly.not_namesServer {records : List ServiceRecord} (denies : DeniesOnly records) :
    ¬ NamesServer records := by
  rintro ⟨record, member, other⟩
  exact other (denies.2 record member)

/-- The target of a record has no characters but points. -/
def IsNameless (record : ServiceRecord) : Prop := ∀ c ∈ record.target.toList, c = '.'

/-- The target of a denial has no name. -/
theorem Denies.isNameless {record : ServiceRecord} (denies : Denies record) :
    IsNameless record := by
  rw [Denies] at denies
  simp [IsNameless, denies]

/-- Nothing but points in a target leaves no host name. -/
theorem serverOf_eq_iff {record : ServiceRecord} {port : Int} :
    serverOf record = ("", port) ↔ IsNameless record ∧ record.port = port := by
  obtain ⟨samePort, last, points, all, split⟩ := names_serverOf record
  have host : (serverOf record).1 = "" ↔ IsNameless record := by
    rw [← String.toList_eq_nil_iff, IsNameless, split, List.forall_mem_append]
    constructor
    · intro empty
      rw [empty]
      exact ⟨nofun, all⟩
    · rintro ⟨only, _⟩
      by_contra given
      refine last ?_
      rw [List.getLast?_eq_some_getLast given, only _ (List.getLast_mem given)]
  rw [Prod.ext_iff, host, samePort]

/-! ## Locating realms -/

section Ends

variable {α β : Type}

/-- A computation ends with a value that is as described, or with the error of a query for service
records that is none of the domain name system. -/
def EndsAs (history : List (Happening world)) (outcome : Except Error α) (holds : α → Prop) :
    Prop :=
  match outcome with
  | .ok value => holds value
  | .error error =>
    error.isA .dns = false ∧ ∃ name, .asked (.serviceRecords name) (.error error) ∈ history

/-- A description of the value may be weakened. -/
theorem EndsAs.imp {history : List (Happening world)} {outcome : Except Error α}
    {holds holds' : α → Prop} (endsAs : EndsAs history outcome holds)
    (implies : ∀ value, holds value → holds' value) : EndsAs history outcome holds' := by
  cases outcome with
  | ok value => exact implies value endsAs
  | error error => exact endsAs

/-- Whatever the replies, a computation ends with a value that agrees with what happened. -/
def Ends (action : Action world α) (agrees : List (Happening world) → α → Prop) : Prop :=
  ∀ history outcome, action.run.Path history outcome →
    EndsAs history outcome (agrees history)

/-- A sequence ends as described if its parts do. -/
theorem Ends.bind {middle : List (Happening world) → α → Prop}
    {agrees : List (Happening world) → β → Prop} {first : Action world α}
    {next : α → Action world β} (ends : Ends first middle)
    (goes : ∀ earlier value, middle earlier value →
      Ends (next value) fun later last => agrees (earlier ++ later) last) :
    Ends (first >>= next) agrees := by
  intro history outcome path
  rcases Action.path_bind path with
    ⟨error, raised, rfl⟩ | ⟨value, earlier, later, rfl, begun, rest⟩
  · exact ends _ _ raised
  · have end' := goes earlier value (ends _ _ begun) later outcome rest
    cases outcome with
    | ok last => exact end'
    | error error =>
      obtain ⟨other, name, member⟩ := end'
      exact ⟨other, name, List.mem_append_right earlier member⟩

/-- A value ends as described if it agrees with nothing having happened. -/
theorem ends_pure {value : α} {agrees : List (Happening world) → α → Prop}
    (agree : agrees [] value) : Ends (pure value) agrees := by
  intro history outcome path
  obtain ⟨rfl, rfl⟩ := Action.path_pure path
  exact agree

end Ends

/-- A query comes to the records in its reply. -/
theorem ends_recordsOf (name : String) :
    Ends (recordsOf name) fun history records =>
      records = replied history ∧ requests history = [.serviceRecords name] := by
  intro history outcome path
  rcases Action.path_bind path with
    ⟨_, raised, _⟩ | ⟨reply, asking, later, rfl, attempted, goes⟩
  · obtain ⟨_, contradiction, _⟩ := Action.path_attempt raised
    cases contradiction
  obtain ⟨result, same, asked⟩ := Action.path_attempt attempted
  cases same
  obtain rfl := Action.path_ask asked
  cases reply with
  | ok records =>
    obtain ⟨rfl, rfl⟩ := Action.path_pure goes
    exact ⟨(List.append_nil records).symm, rfl⟩
  | error error =>
    dsimp only at goes
    split at goes
    · obtain ⟨rest, rfl, ended⟩ := Action.path_log_bind goes
      obtain ⟨rfl, rfl⟩ := Action.path_pure ended
      exact ⟨rfl, rfl⟩
    · next other =>
      obtain ⟨rfl, rfl⟩ := Action.path_throw goes
      exact ⟨Bool.not_eq_true _ ▸ other, name, List.mem_cons_self⟩

/-- Each record is an entry, those over TCP and those over UDP. -/
theorem ends_discoverServers (realm : String) :
    Ends (discoverServers realm) fun history servers =>
      servers.Perm ((replied history).map serverOf) ∧ requests history = queries realm := by
  refine (ends_recordsOf _).bind ?_
  rintro first overTcp ⟨rfl, asked⟩
  refine (ends_recordsOf _).bind ?_
  rintro second overUdp ⟨rfl, asked'⟩
  refine ends_pure ⟨?_, ?_⟩
  · rw [List.append_nil, replied_append]
    exact (List.mergeSort_perm _ triedFirst).map serverOf
  · rw [List.append_nil, requests, List.filterMap_append, ← requests, ← requests, asked, asked']
    rfl

/-- The queries that decide whether a text names a realm: none, if that is too short. -/
def queriesFor (text : String) : List World.Request :=
  if (withoutLeadingPoint text).length < 2 then [] else queries (withoutLeadingPoint text)

/-- A realm is located if a record came. -/
theorem ends_locateRealm (text : String) :
    Ends (locateRealm (some text)) fun history found =>
      requests history = queriesFor text ∧ (found = true ↔ replied history ≠ []) := by
  rw [locateRealm]
  by_cases short : (withoutLeadingPoint text).length < 2
  · rw [if_pos short, queriesFor, if_pos short]
    exact ends_pure ⟨rfl, by simp⟩
  rw [if_neg short, queriesFor, if_neg short]
  refine (ends_discoverServers _).bind ?_
  rintro first servers ⟨perm, asked⟩ history outcome path
  obtain ⟨later, rfl, ended⟩ := Action.path_log_bind path
  obtain ⟨rfl, rfl⟩ := Action.path_pure ended
  have none : servers = [] ↔ replied first = [] := by
    rw [← List.length_eq_zero_iff, perm.length_eq, List.length_map, List.length_eq_zero_iff]
  constructor
  · simpa [requests] using asked
  · simpa [replied] using not_congr none

/-! ## Finding realms -/

/-- An inquiry that comes to a verdict accepts its candidate if a record names a server, or if all
there are deny it. -/
theorem verdict_eq_true_iff {inquiry : Inquiry world} (isOf : inquiry.IsOf Validator.dns.accepts)
    (unraised : ∀ error, inquiry.verdict ≠ .error error) :
    inquiry.verdict = .ok true ↔
      NamesServer (replied inquiry.history) ∨ DeniesOnly (replied inquiry.history) := by
  have ends := ends_locateRealm inquiry.candidate _ _ isOf
  rw [← ne_nil_iff_names_or_denies]
  cases verdict : inquiry.verdict with
  | error error => exact absurd verdict (unraised error)
  | ok found =>
    rw [verdict] at ends
    simpa using ends.2

/-- The error of a search is that of a query in one of its inquiries. -/
theorem endsAs_of_inquires {texts : List String} {asked : List (Inquiry world)}
    {history : List (Happening world)} {outcome : Except Error (Option Realm)}
    {holds : Option Realm → Prop}
    (inquires : Inquires Validator.dns.accepts texts asked history outcome)
    (value : ∀ found?, outcome = .ok found? →
      (∀ inquiry ∈ asked, ∀ error, inquiry.verdict ≠ .error error) → holds found?) :
    EndsAs history outcome holds := by
  have raised_iff : ∀ error, outcome = .error error ↔
      ∃ inquiry ∈ asked, inquiry.verdict = .error error := by
    intro error
    rw [inquires.outcome_eq]
    exact Realm.conclusion_eq_error_iff inquires.rejected
  cases outcome with
  | ok found? =>
    refine value found? rfl ?_
    intro inquiry member error raised
    cases (raised_iff error).mpr ⟨inquiry, member, raised⟩
  | error error =>
    obtain ⟨inquiry, member, raised⟩ := (raised_iff error).mp rfl
    have ends := ends_locateRealm inquiry.candidate _ _ (inquires.isOf inquiry member)
    rw [raised] at ends
    obtain ⟨other, name, asking⟩ := ends
    refine ⟨other, name, ?_⟩
    rw [inquires.history_eq]
    exact List.mem_flatMap.mpr ⟨inquiry, member, List.mem_cons_of_mem _ asking⟩

/-- A search finds only realms for which a record names a server if and only if none of its
inquiries meets only denials. -/
theorem finds_server_iff {asked : List (Inquiry world)}
    (rejected : asked.Pairwise (fun earlier _ => earlier.verdict = .ok false))
    (accepted_iff : ∀ inquiry ∈ asked, inquiry.verdict = .ok true ↔
      NamesServer (replied inquiry.history) ∨ DeniesOnly (replied inquiry.history)) :
    (∀ realm, Realm.conclusion asked = .ok (some realm) →
      ∃ inquiry ∈ asked, realm.text = upper inquiry.candidate ∧
        NamesServer (replied inquiry.history)) ↔
      ∀ inquiry ∈ asked, ¬ DeniesOnly (replied inquiry.history) := by
  constructor
  · intro law inquiry member denies
    have accepted := (accepted_iff inquiry member).mpr (.inr denies)
    have settled : inquiry.verdict ≠ .ok false := by
      rw [accepted]
      nofun
    obtain ⟨other, member', _, names⟩ := law (.ofText inquiry.candidate)
      ((Realm.conclusion_eq_some_iff rejected).mpr ⟨inquiry, member, accepted, rfl⟩)
    have accepted' := (accepted_iff other member').mpr (.inl names)
    -- only one inquiry accepts its candidate, so the realm is found by this one
    rcases Realm.eq_or_rejected rejected member settled member' with rfl | rejected'
    · exact denies.not_namesServer names
    · rw [rejected'] at accepted'
      cases accepted'
  · intro undenied realm concluded
    obtain ⟨inquiry, member, accepted, named⟩ :=
      (Realm.conclusion_eq_some_iff rejected).mp concluded
    have came := (accepted_iff inquiry member).mp accepted
    exact ⟨inquiry, member, named, came.resolve_right (undenied inquiry member)⟩

/-- Servers without a host name are those that records with nothing but points in their targets
name, denials among them. A realm is located if a record names a server, and also if there are only
records that deny the service; so the realm that a search finds has a record that names a server if
and only if none of the inquiries meets only denials. Nothing is raised but the errors of queries
that are none of the domain name system. -/
theorem located_named_or_denied {σ : Type} (answer : Answerer world σ) (state : σ) :
    (∀ realm,
      let outcome := (discoverServers realm).run.run answer state
      EndsAs outcome.history outcome.value fun servers =>
        requests outcome.history = queries realm ∧
        (∀ port, ("", port) ∈ servers ↔
          ∃ record ∈ replied outcome.history, IsNameless record ∧ record.port = port) ∧
        ∀ record ∈ replied outcome.history, Denies record → ("", record.port) ∈ servers) ∧
    (∀ text,
      let outcome := (locateRealm (some text)).run.run answer state
      EndsAs outcome.history outcome.value fun found =>
        requests outcome.history = queriesFor text ∧
        (found = true ↔
          NamesServer (replied outcome.history) ∨ DeniesOnly (replied outcome.history))) ∧
    ∀ host,
      let outcome := (Realm.find Validator.dns.accepts (some host)).run.run answer state
      ∃ asked : List (Inquiry world),
        outcome.history = asked.flatMap Inquiry.happenings ∧
        (∀ inquiry ∈ asked, inquiry.IsOf Validator.dns.accepts) ∧
        GoesThrough host asked ∧
        EndsAs outcome.history outcome.value fun found? =>
          (∀ realm, found? = some realm ↔
            ∃ inquiry ∈ asked, realm.text = upper inquiry.candidate ∧
              (NamesServer (replied inquiry.history) ∨ DeniesOnly (replied inquiry.history))) ∧
          ((∀ realm, found? = some realm →
            ∃ inquiry ∈ asked, realm.text = upper inquiry.candidate ∧
              NamesServer (replied inquiry.history)) ↔
            ∀ inquiry ∈ asked, ¬ DeniesOnly (replied inquiry.history)) := by
  refine ⟨?_, ?_, ?_⟩
  · intro realm outcome
    have ends := ends_discoverServers realm _ _ (Dialogue.run_path answer _ state)
    refine ends.imp ?_
    rintro servers ⟨perm, asked⟩
    have nameless_iff : ∀ port, ("", port) ∈ servers ↔
        ∃ record ∈ replied outcome.history, IsNameless record ∧ record.port = port := by
      intro port
      simp only [perm.mem_iff, List.mem_map, serverOf_eq_iff]
      rfl
    refine ⟨asked, nameless_iff, ?_⟩
    intro record member denies
    exact (nameless_iff record.port).mpr ⟨record, member, denies.isNameless, rfl⟩
  · intro text outcome
    have ends := ends_locateRealm text _ _ (Dialogue.run_path answer _ state)
    refine ends.imp ?_
    rintro found ⟨asked, came⟩
    exact ⟨asked, came.trans (ne_nil_iff_names_or_denies _)⟩
  · intro host outcome
    have path : (Realm.find Validator.dns.accepts (some host)).run.Path outcome.history
        outcome.value := Dialogue.run_path answer _ state
    obtain ⟨asked, inquires⟩ := (Realm.path_find path).inquires
    have rejected := inquires.rejected
    refine ⟨asked, inquires.history_eq, inquires.isOf, inquires.goesThrough, ?_⟩
    refine endsAs_of_inquires inquires ?_
    intro found? value unraised
    have accepted_iff := fun inquiry member =>
      verdict_eq_true_iff (inquires.isOf inquiry member) (unraised inquiry member)
    -- the search ends with a value, so no inquiry raised and its outcome is that of the inquiries
    have concluded : ∀ realm, found? = some realm ↔ Realm.conclusion asked = .ok (some realm) := by
      intro realm
      rw [← inquires.outcome_eq, value, Except.ok.injEq]
    simp only [concluded]
    refine ⟨fun realm => ?_, finds_server_iff rejected accepted_iff⟩
    rw [Realm.conclusion_eq_some_iff rejected]
    refine exists_congr fun inquiry => and_congr_right fun member => ?_
    rw [accepted_iff inquiry member, and_comm]

/-- A world in which a realm publishes that it has no servers. -/
def deniedService : Simulation.World where
  services := [("_kerberos._tcp.example.com", .ok [⟨".", 0, 0, 0⟩])]

/-- A realm whose only record denies the service has a server without a host name, is located, and
is found for the hosts in it. -/
theorem denied_realm_found :
    let answer : Answerer world Unit := fun request state => (deniedService.reply request, state)
    let discovered := (discoverServers "EXAMPLE.COM").run.run answer ()
    let located := (locateRealm (some "EXAMPLE.COM")).run.run answer ()
    let found := (Realm.find Validator.dns.accepts (some "db1.example.com")).run.run answer ()
    discovered.value.toOption = some [("", 0)] ∧
      located.value.toOption = some true ∧
      requests located.history = queries "EXAMPLE.COM" ∧
      (∀ record ∈ replied located.history, Denies record) ∧
      found.value.toOption = some (some (.ofText "EXAMPLE.COM")) ∧
      ∀ record ∈ replied found.history, Denies record := by
  decide +kernel

end SignOn.Dns
