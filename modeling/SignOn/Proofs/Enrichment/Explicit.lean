import SignOn.Proofs.Enrichment.Steady

/-!
# Names that come with a realm

Enrichment is to leave a name alone that already has a realm. Whether it sees the realm depends on
where the name is cut, and the longest host wins: if the realm itself ends in a colon and a port
(`EndsInPort`), as realms of the style `NAMETYPE:rest` may, all before that colon is taken for the
host and the name for one without a realm (`parse?_explicitText`). Main statement: for every host,
port and realm, enrichment leaves the name alone and asks nobody if the realm does not end this
way, and asks for a validator of the wrong host if it does (`explicit_realm_kept_iff`). A second
realm may then come behind the first (`realm_behind_realm`).
-/

set_option autoImplicit false

namespace SignOn.ServiceName

/-! ## Where a name with a realm is cut -/

/-- A text ends in a colon and a port. -/
def EndsInPort (text : List Char) : Prop :=
  ∃ first last, text = first ++ ':' :: last ∧ IsPort last

/-- A text without a colon does not end in a port. -/
theorem not_endsInPort_of_colonless {text : List Char} (colonless : ':' ∉ text) :
    ¬ EndsInPort text := by
  rintro ⟨first, last, rfl, _⟩
  apply colonless
  simp

/-- The text of a name in a realm that is written as it stands. -/
def explicitText (host port realm : String) : String :=
  databaseService ++ "/" ++ host ++ ":" ++ port ++ "@" ++ realm

/-- The characters of a name in a realm that is written as it stands. -/
theorem toList_explicitText (host port realm : String) :
    (explicitText host port realm).toList = databaseService.toList ++
      '/' :: (host.toList ++ ':' :: (port.toList ++ '@' :: realm.toList)) := by
  simp [explicitText, String.toList_append]

/-- A realm that ends in a colon and a port is not seen: all before the last colon is read as the
host. -/
theorem parse?_explicitText {host port realm : String} {first last : List Char}
    (line : '\n' ∉ host.toList) (portLine : '\n' ∉ port.toList) (realmLine : '\n' ∉ realm.toList)
    (split : realm.toList = first ++ ':' :: last) (isPort : IsPort last) :
    parse? (explicitText host port realm) =
      some ⟨String.ofList (host.toList ++ ':' :: (port.toList ++ '@' :: first)),
        String.ofList last, none, databaseService⟩ := by
  have cuts : Cuts (host.toList ++ ':' :: (port.toList ++ '@' :: realm.toList))
      (host.toList ++ ':' :: (port.toList ++ '@' :: first)) last none := by
    refine ⟨?_, ?_, isPort, ?_⟩
    · rw [split]
      simp [realmPart]
    · have firstLine : '\n' ∉ first := by
        rw [split] at realmLine
        exact fun member => realmLine (List.mem_append_left _ member)
      simp [line, portLine, firstLine]
    · intro name member
      cases member
  have last : ':' ∉ realmPart none := List.not_mem_nil
  refine parse?_eq_some_iff.mpr ⟨_, _, _, _, ?_, cuts.cut_eq last, rfl⟩
  rw [toList_explicitText, afterService_databaseService]

/-- A name in a realm is read as one without only if the realm ends in a colon and a port, with no
line end before that colon. -/
theorem endsInPort_of_parse? {host port realm : String} {name : ServiceName}
    (found : parse? (explicitText host port realm) = some name) (unqualified : name.realm = none) :
    '\n' ∉ port.toList ∧ EndsInPort realm.toList := by
  obtain ⟨rest, other, otherPort, otherRealm, service, cutting, rfl⟩ := parse?_eq_some_iff.mp found
  rw [toList_explicitText, afterService_databaseService] at service
  cases service
  have cuts := cuts_of_cut cutting
  have none_eq : otherRealm = none := by simpa using unqualified
  have ends : (host.toList ++ ':' :: port.toList) ++ '@' :: realm.toList =
      other ++ ':' :: otherPort := by
    have whole := cuts.text_eq
    rw [none_eq] at whole
    simpa [realmPart] using whole
  obtain ⟨first, other_eq, realm_eq⟩ := at_before_colon cuts.port ends
  refine ⟨?_, first, otherPort, realm_eq, cuts.port⟩
  intro member
  apply cuts.host
  simp [other_eq, member]

end SignOn.ServiceName

namespace SignOn.Enrichment

open Dialogue (Answerer Happening)
open ServiceName (EndsInPort IsPort explicitText)

/-! ## Leaving names alone -/

/-- Completing a text leaves it as it is and asks nobody, whatever the collaborators would reply. -/
def IsLeftAlone (V : Type) (spn : String) (allowed : Bool) : Prop :=
  ∀ (history : List (Happening (collaborators V))) (outcome : Except Error String),
    (enrich spn allowed).run.Path history outcome → history = [] ∧ outcome = .ok spn

/-- A text that names a realm, if it is a name at all, is left alone. -/
theorem IsQualified.isLeftAlone {V : Type} {spn : String} (qualified : IsQualified spn)
    (allowed : Bool) : IsLeftAlone V spn allowed := by
  intro history outcome path
  cases path_enrich path with
  | foreign | qualified => exact ⟨rfl, rfl⟩
  | raised read unqualified => exact absurd unqualified (qualified.realm_ne_none read)
  | enriched read unqualified => exact absurd unqualified (qualified.realm_ne_none read)
  | unenriched read unqualified => exact absurd unqualified (qualified.realm_ne_none read)

/-- Looking for the realm of a host begins with a validator for that host. -/
theorem Locates.exists_probe {V : Type} {host : String} {allowed : Bool}
    {history : List (Happening (collaborators V))}
    {outcome : Except Error (Option Realm × String)}
    (locates : Locates host allowed history outcome) :
    ∃ reply later, history = .asked (.probe host) reply :: later := by
  cases locates <;> exact ⟨_, _, rfl⟩

/-- Completing a name that is read without a realm begins with a validator for the host that was
read. -/
theorem exists_probe_of_unqualified {V : Type} {spn : String} {name : ServiceName} {allowed : Bool}
    (read : ServiceName.parse? spn = some name) (unqualified : name.realm = none)
    {history : List (Happening (collaborators V))} {outcome : Except Error String}
    (path : (enrich spn allowed).run.Path history outcome) :
    ∃ reply later, history = .asked (.probe name.host) reply :: later := by
  cases path_enrich path with
  | foreign unread =>
    rw [unread] at read
    cases read
  | qualified read' qualified =>
    rw [read] at read'
    cases read'
    rw [unqualified] at qualified
    cases qualified
  | raised read' _ locates =>
    rw [read] at read'
    cases read'
    exact locates.exists_probe
  | enriched read' _ locates =>
    rw [read] at read'
    cases read'
    exact locates.exists_probe
  | unenriched read' _ locates =>
    rw [read] at read'
    cases read'
    obtain ⟨reply, later, rfl⟩ := locates.exists_probe
    exact ⟨reply, _, rfl⟩

/-- Collaborators that raise an error at every request. -/
def refusing (V : Type) : Answerer (collaborators V) Unit :=
  fun _ state => (.error (.reported ⟨.runtime, "", none, none, none, ""⟩), state)

/-- A name that is read without a realm is not left alone. -/
theorem not_isLeftAlone {V : Type} {spn : String} {name : ServiceName} {allowed : Bool}
    (read : ServiceName.parse? spn = some name) (unqualified : name.realm = none) :
    ¬ IsLeftAlone V spn allowed := by
  intro alone
  have path := Dialogue.run_path (refusing V) (enrich spn allowed).run ()
  obtain ⟨reply, later, asked⟩ := exists_probe_of_unqualified read unqualified path
  rw [(alone _ _ path).1] at asked
  cases asked

/-- A name in an explicit realm is left alone just if the realm does not end in a colon and a port,
or a line end in the port keeps that colon from counting. Otherwise the realm is not seen, and the
first thing asked for is a validator for all that stands before its last colon. -/
theorem explicit_realm_kept_iff {V : Type} {host port realm : String} (allowed : Bool)
    (line : '\n' ∉ host.toList) (realmLine : '\n' ∉ realm.toList) :
    (IsLeftAlone V (explicitText host port realm) allowed ↔
      ¬ ('\n' ∉ port.toList ∧ EndsInPort realm.toList)) ∧
    ∀ first last, realm.toList = first ++ ':' :: last → IsPort last → '\n' ∉ port.toList →
      ∀ (history : List (Happening (collaborators V))) (outcome : Except Error String),
        (enrich (explicitText host port realm) allowed).run.Path history outcome →
          ∃ reply later, history =
            .asked (.probe (host ++ ":" ++ port ++ "@" ++ String.ofList first)) reply ::
              later := by
  -- where the realm ends in a colon and a port, the longest host reaches up to that colon
  have misread : ∀ first last, realm.toList = first ++ ':' :: last → IsPort last →
      '\n' ∉ port.toList → ServiceName.parse? (explicitText host port realm) =
        some ⟨host ++ ":" ++ port ++ "@" ++ String.ofList first, String.ofList last, none,
          databaseService⟩ := by
    intro first last split lastPort portLine
    rw [ServiceName.parse?_explicitText line portLine realmLine split lastPort]
    have host_eq : String.ofList (host.toList ++ ':' :: (port.toList ++ '@' :: first)) =
        host ++ ":" ++ port ++ "@" ++ String.ofList first := by
      apply String.toList_injective
      simp [String.toList_append]
    rw [host_eq]
  constructor
  · constructor
    · rintro alone ⟨portLine, first, last, split, lastPort⟩
      exact not_isLeftAlone (misread first last split lastPort portLine) rfl alone
    · intro seen
      apply IsQualified.isLeftAlone
      intro name found
      cases given : name.realm with
      | some realm => rfl
      | none => exact absurd (ServiceName.endsInPort_of_parse? found given) seen
  · intro first last split lastPort portLine history outcome path
    exact exists_probe_of_unqualified (misread first last split lastPort portLine) rfl path

/-- A realm in the usual form is kept. -/
theorem domain_realm_kept :
    IsLeftAlone Unit (explicitText "db1.example.com" "1433" "Example.COM") true :=
  (explicit_realm_kept_iff true (by decide) (by decide)).1.mpr
    (fun misread => ServiceName.not_endsInPort_of_colonless (by decide) misread.2)

/-- A realm of the style `NAMETYPE:rest` is taken for a part of the host, and the realm of that host
comes behind it. -/
theorem realm_behind_realm :
    ((enrich (explicitText "db1" "1433" "NAMETYPE:dept.example.com:east") false).run.run
      (answerFrom oneRealm) ()).value.toOption =
        some "MSSQLSvc/db1:1433@NAMETYPE:dept.example.com:east@EXAMPLE.COM" ∧
      ¬ IsLeftAlone Unit (explicitText "db1" "1433" "NAMETYPE:dept.example.com:east") false := by
  refine ⟨by decide +kernel, ?_⟩
  have split : "NAMETYPE:dept.example.com:east".toList =
      "NAMETYPE:dept.example.com".toList ++ ':' :: "east".toList := by decide +kernel
  have line : '\n' ∉ "db1".toList := by decide
  have portLine : '\n' ∉ "1433".toList := by decide
  have realmLine : '\n' ∉ "NAMETYPE:dept.example.com:east".toList := by decide
  exact not_isLeftAlone
    (ServiceName.parse?_explicitText line portLine realmLine split
      ⟨by decide, by simp [ServiceName.isPortChar]⟩) rfl

end SignOn.Enrichment
