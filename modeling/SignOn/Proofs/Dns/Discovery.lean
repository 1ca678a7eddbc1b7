import Mathlib.Data.List.Forall2
import SignOn.Proofs.Realm.Overlap
import SignOn.Proofs.Text.Lines

/-!
# How the servers of a realm are found and ordered

The records of both queries are put in the order in which they are to be tried: by priority, then by
descending weight, and otherwise as they came, those over TCP first. Nothing else happens to them
(`Orders`, `orders_mergeSort`), and each names a server (`Names`, `names_serverOf`). Main statement:
the servers of a realm are named by the records of those queries that succeed, in this order, and a
realm exists if there are any (`servers_in_order`).
-/

set_option autoImplicit false

namespace SignOn.Dns

open Dialogue (Answerer requests)
open Realm (LooksUp published)
open Text (lower)

/-! ## The order of records -/

/-- A record is tried no later than another: its priority number is lower, or the same and its
weight is not. -/
def NoLater (first second : ServiceRecord) : Prop :=
  first.priority < second.priority ∨
    first.priority = second.priority ∧ second.weight ≤ first.weight

/-- The test by which records are put in order is whether one is tried no later than the other. -/
theorem triedFirst_iff {first second : ServiceRecord} :
    triedFirst first second = true ↔ NoLater first second := by
  simp [triedFirst, NoLater]

/-- A record has a priority and a weight. -/
def hasRank (priority weight : Int) (record : ServiceRecord) : Bool :=
  record.priority == priority && record.weight == weight

/-- Records are put in the order in which they are to be tried. None is lost, invented or repeated,
and those with the same priority and weight stay in the order in which they were given. -/
structure Orders (given ordered : List ServiceRecord) : Prop where
  perm : ordered.Perm given
  sorted : ordered.Pairwise NoLater
  stable : ∀ priority weight,
    ordered.filter (hasRank priority weight) = given.filter (hasRank priority weight)

/-- The merge sort puts records in order. -/
theorem orders_mergeSort (given : List ServiceRecord) :
    Orders given (given.mergeSort triedFirst) := by
  have trans : ∀ first second third, triedFirst first second = true →
      triedFirst second third = true → triedFirst first third = true := by
    simp only [triedFirst_iff, NoLater]
    omega
  have total : ∀ first second, (triedFirst first second || triedFirst second first) = true := by
    simp only [Bool.or_eq_true, triedFirst_iff, NoLater]
    omega
  have perm := List.mergeSort_perm given triedFirst
  refine ⟨perm, ?_, ?_⟩
  · exact (List.pairwise_mergeSort trans total given).imp triedFirst_iff.mp
  · intro priority weight
    have same : ∀ first second, hasRank priority weight first = true →
        hasRank priority weight second = true → triedFirst first second = true := by
      simp only [triedFirst_iff, NoLater, hasRank, Bool.and_eq_true, beq_iff_eq]
      omega
    -- records of one rank are in order as they are given, so sorting leaves them so
    have given_sorted : (given.filter (hasRank priority weight)).Pairwise
        (fun first second => triedFirst first second = true) := by
      refine List.pairwise_of_forall_mem_list ?_
      intro first member second member'
      exact same first second (List.mem_filter.mp member).2 (List.mem_filter.mp member').2
    have kept := (List.sublist_mergeSort trans total given_sorted List.filter_sublist).filter
      (hasRank priority weight)
    simp only [List.filter_filter, Bool.and_self] at kept
    exact (kept.eq_of_length (perm.filter _).length_eq.symm).symm

example :
    let records : List ServiceRecord :=
      [⟨"a", 88, 1, 5⟩, ⟨"b", 88, 0, 1⟩, ⟨"c", 88, 1, 5⟩, ⟨"d", 88, 0, 7⟩]
    (records.mergeSort triedFirst).map ServiceRecord.target = ["d", "b", "a", "c"] := by
  cbv

/-! ## The names of servers -/

/-- A record names a server: its port is the record's, and its host name is the target without the
points at its end. -/
def Names (record : ServiceRecord) (server : String × Int) : Prop :=
  server.2 = record.port ∧ server.1.toList.getLast? ≠ some '.' ∧
    ∃ points : List Char, (∀ c ∈ points, c = '.') ∧
      record.target.toList = server.1.toList ++ points

/-- A record names the server that is made of it. -/
theorem names_serverOf (record : ServiceRecord) : Names record (serverOf record) := by
  obtain ⟨points, dropped, split⟩ :=
    Text.exists_eq_dropEndWhile_append (· == '.') record.target.toList
  refine ⟨rfl, ?_, points, ?_, ?_⟩
  · rw [serverOf, String.toList_ofList]
    intro last
    cases Text.drops_eq_false_of_getLast? last
  · intro c member
    exact beq_iff_eq.mp (dropped c member)
  · rw [serverOf, String.toList_ofList]
    exact split

/-! ## Finding servers -/

variable {σ : Type} {answer : Answerer world σ}

/-- A text is a realm with or without one leading point; one that begins with a point itself needs
it. -/
def IsRealmText (text realm : String) : Prop :=
  text = "." ++ realm ∨ text = realm ∧ realm.toList.head? ≠ some '.'

/-- The realm in a text is what is left without a leading point. -/
theorem IsRealmText.withoutLeadingPoint_eq {text realm : String}
    (written : IsRealmText text realm) : withoutLeadingPoint text = realm := by
  rcases written with rfl | ⟨rfl, start⟩
  · simp [withoutLeadingPoint]
  · exact Realm.withoutLeadingPoint_eq_self start

/-- The service of a realm over TCP. -/
theorem serviceName_tcp (realm : String) :
    serviceName "_tcp" realm = "_kerberos._tcp." ++ lower realm := rfl

/-- The service of a realm over UDP. -/
theorem serviceName_udp (realm : String) :
    serviceName "_udp" realm = "_kerberos._udp." ++ lower realm := rfl

/-- The servers of a realm are named by the records in the replies to two queries, one over TCP and
one over UDP, both for the lower case form of the realm. All records of the queries that succeed
are there, in the order in which they are to be tried; a query that fails adds none, and nothing is
raised. A realm exists if there are servers; only for a realm of one character or none, not
counting a leading point, is nothing asked, and it does not exist. -/
theorem servers_in_order (looksUp : LooksUp answer) (realm : String) (state : σ) :
    let overTcp := answer (.serviceRecords ("_kerberos._tcp." ++ lower realm)) state
    let overUdp := answer (.serviceRecords ("_kerberos._udp." ++ lower realm)) overTcp.2
    let outcome := (discoverServers realm).run.run answer state
    ∃ records servers, outcome.value = .ok servers ∧
      Orders (published overTcp.1 ++ published overUdp.1) records ∧
      List.Forall₂ Names records servers ∧
      requests outcome.history =
        [.serviceRecords ("_kerberos._tcp." ++ lower realm),
          .serviceRecords ("_kerberos._udp." ++ lower realm)] ∧
      ∀ text, IsRealmText text realm →
        let located := (locateRealm (some text)).run.run answer state
        (2 ≤ realm.length → located.value = .ok (decide (servers ≠ [])) ∧
          requests located.history = requests outcome.history) ∧
        (realm.length < 2 → located.value = .ok false ∧ requests located.history = []) := by
  intro overTcp overUdp outcome
  obtain ⟨history, found, asked⟩ := Realm.run_discoverServers looksUp realm state
  rw [serviceName_tcp, serviceName_udp] at found
  have come : outcome = ⟨.ok _, history, overUdp.2⟩ := found
  refine ⟨_, _, congrArg Dialogue.Outcome.value come, orders_mergeSort _, ?_, ?_, ?_⟩
  · rw [List.forall₂_map_right_iff, List.forall₂_same]
    exact fun record _ => names_serverOf record
  · rw [come]
    exact asked
  · -- the same servers are found for the text, which has at most a point more at its start
    intro text written located
    have named := written.withoutLeadingPoint_eq
    constructor
    · intro long
      have run : located = _ := Realm.run_locateRealm named long found
      rw [run, come]
      constructor
      · cases ((published overTcp.1 ++ published overUdp.1).mergeSort triedFirst).map serverOf with
        | nil => rfl
        | cons server others => rfl
      · simp [requests]
    · intro short
      have run : located = _ := Realm.run_locateRealm_of_short named short state
      rw [run]
      exact ⟨rfl, rfl⟩

/-- A world in which a realm publishes servers over both protocols, some of them equal in rank. -/
def fourServices : Simulation.World where
  services :=
    [("_kerberos._tcp.example.com",
        .ok [⟨"b.example.com.", 88, 1, 5⟩, ⟨"a.example.com..", 88, 0, 1⟩]),
      ("_kerberos._udp.example.com", .ok [⟨"d.example.com.", 750, 1, 5⟩, ⟨"c", 88, 0, 7⟩])]

/-- The records over TCP and those over UDP are put in one order, and the realm exists, also if its
name is written with a point before it. -/
theorem four_servers_in_order :
    let answer : Answerer world Unit := fun request state => (fourServices.reply request, state)
    ∃ records servers,
      Orders [⟨"b.example.com.", 88, 1, 5⟩, ⟨"a.example.com..", 88, 0, 1⟩,
        ⟨"d.example.com.", 750, 1, 5⟩, ⟨"c", 88, 0, 7⟩] records ∧
      List.Forall₂ Names records servers ∧
      ((discoverServers "Example.COM").run.run answer ()).value = .ok servers ∧
      ((locateRealm (some ".Example.COM")).run.run answer ()).value = .ok true := by
  intro answer
  have looksUp := Realm.looksUp_of_services fourServices (by simp [fourServices])
  obtain ⟨records, servers, come, orders, named, _, locates⟩ :=
    servers_in_order looksUp "Example.COM" ()
  have four : servers.length = 4 := named.length_eq.symm.trans orders.perm.length_eq
  have located := ((locates ".Example.COM" (.inl rfl)).1 (by decide)).1
  rw [decide_eq_true (List.ne_nil_of_length_eq_add_one four)] at located
  exact ⟨records, servers, orders, named, come, located⟩

end SignOn.Dns
