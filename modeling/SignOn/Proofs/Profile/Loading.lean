import SignOn.Profile.Native
import SignOn.Proofs.Dialogue.Path
import SignOn.Proofs.Profile.Merging
import SignOn.Simulation.Tables

/-!
# Loading the native configuration

Every listed file is opened once, in order (`openings`). Where each is either a text or cannot be
opened (`IsLegible`), loading comes to the merge of the texts, and to nothing if there is none
(`Loads.outcome_eq`). Main statement: of several files the first with a key decides on its values,
exactly (`earlier_file_wins`).
-/

set_option autoImplicit false

namespace SignOn.NativeConfiguration

open Dialogue (Happening)
open Keyed (keys)
open Profile (mergeAll)

/-! ## Openings -/

/-- The opening of a file: its path, and the bytes or the error that came of it. -/
abbrev Opening : Type := String × Except Error (List UInt8)

/-- The file that is opened. -/
def opening? : Happening world → Option Opening
  | .asked (.file path) reply => some (path, reply)
  | _ => none

/-- All files that are opened. -/
def openings (history : List (Happening world)) : List Opening := history.filterMap opening?

/-- The text that was read, if a file could be opened and decoded. -/
def text? (opening : Opening) : Option String :=
  match opening.2 with
  | .ok bytes => String.fromUTF8? ⟨bytes.toArray⟩
  | .error _ => none

/-- A file gives a text, or the system refuses to open it. -/
def IsLegible (opening : Opening) : Prop :=
  match opening.2 with
  | .ok _ => (text? opening).isSome = true
  | .error error => error.isA .system = true

/-- The readable files, each with its path and text. -/
def readable (opened : List Opening) : List (String × String) :=
  opened.filterMap (fun opening => (text? opening).map (fun text => (opening.1, text)))

/-- What adding a file to a profile comes to. -/
def added (profile : Profile) (opening : Opening) : Except Error (Option Profile) :=
  match opening.2 with
  | .error error => if error.isA .system then .ok none else .error error
  | .ok bytes =>
    match String.fromUTF8? ⟨bytes.toArray⟩ with
    | none => .error (.undecodableFile opening.1)
    | some text => .ok (some (profile.read text))

/-- What readable files come to. -/
def loaded? (locator : Locator) (files : List (String × String)) : Option NativeConfiguration :=
  if files.isEmpty then none else some ⟨mergeAll (files.map (·.2)), files.map (·.1), locator⟩

/-- Files are opened in the order of the history. -/
theorem openings_append (earlier later : List (Happening world)) :
    openings (earlier ++ later) = openings earlier ++ openings later := List.filterMap_append

/-- An event that is logged opens no file. -/
@[simp] theorem openings_logged (event : LogEvent) (later : List (Happening world)) :
    openings (.logged event :: later) = openings later := rfl

/-- Logging opens no file and goes well. -/
theorem path_logIncludes {directives : List String} {history : List (Happening world)}
    {outcome : Except Error Unit} (path : (logIncludes directives).run.Path history outcome) :
    openings history = [] ∧ outcome = .ok () := by
  induction directives generalizing history with
  | nil =>
    obtain ⟨rfl, rfl⟩ := Action.path_pure path
    exact ⟨rfl, rfl⟩
  | cons directive rest ih =>
    obtain ⟨later, rfl, logged⟩ := Action.path_log_bind path
    rw [openings_logged]
    exact ih logged

/-- Adding a text to a profile opens no file and does not fail. -/
theorem path_addText {profile : Profile} {text : String} {history : List (Happening world)}
    {outcome : Except Error Profile} (path : (addText profile text).run.Path history outcome) :
    openings history = [] ∧ outcome = .ok (profile.read text) := by
  rcases Action.path_bind path with
    ⟨error, logging, rfl⟩ | ⟨_, earlier, later, rfl, logging, rest⟩
  · cases (path_logIncludes logging).2
  · obtain ⟨rfl, rfl⟩ := Action.path_pure rest
    rw [List.append_nil]
    exact ⟨(path_logIncludes logging).1, rfl⟩

/-- A file is opened once, and all else depends on what came of that. -/
theorem path_addFile {profile : Profile} {file : String} {history : List (Happening world)}
    {outcome : Except Error (Option Profile)}
    (path : (addFile profile file).run.Path history outcome) :
    ∃ reply, openings history = [(file, reply)] ∧ outcome = added profile (file, reply) := by
  rcases Action.path_bind path with ⟨_, opening, _⟩ | ⟨reply, _, later, rfl, opening, rest⟩
  · obtain ⟨_, contradiction, _⟩ := Action.path_attempt opening
    cases contradiction
  obtain ⟨_, attempted, opening⟩ := Action.path_attempt opening
  cases attempted
  unfold World.file at opening
  rw [Action.path_ask opening, List.singleton_append]
  refine ⟨reply, ?_⟩
  unfold added
  cases reply with
  | error error =>
    cases system : error.isA .system with
    | false =>
      simp only [system, Bool.false_eq_true, if_false] at rest ⊢
      obtain ⟨rfl, rfl⟩ := Action.path_throw rest
      exact ⟨rfl, rfl⟩
    | true =>
      simp only [system, if_true] at rest ⊢
      obtain ⟨_, rfl, logged⟩ := Action.path_log_bind rest
      obtain ⟨rfl, rfl⟩ := Action.path_pure logged
      exact ⟨rfl, rfl⟩
  | ok bytes =>
    cases decoded : String.fromUTF8? ⟨bytes.toArray⟩ with
    | none =>
      simp only [decoded] at rest ⊢
      obtain ⟨rfl, rfl⟩ := Action.path_throw rest
      exact ⟨rfl, rfl⟩
    | some text =>
      simp only [decoded, map_eq_pure_bind] at rest ⊢
      rcases Action.path_bind rest with
        ⟨error, adding, rfl⟩ | ⟨extended, first, _, rfl, adding, rest⟩
      · cases (path_addText adding).2
      · obtain ⟨quiet, same⟩ := path_addText adding
        cases same
        obtain ⟨rfl, rfl⟩ := Action.path_pure rest
        have opened : openings (.asked (.file file) (.ok bytes) :: (first ++ [])) =
            (file, .ok bytes) :: openings first := by
          rw [List.append_nil]
          rfl
        rw [opened, quiet]
        exact ⟨rfl, rfl⟩

/-- If a file is legible, its text is read or it is left out. -/
theorem added_of_isLegible {opening : Opening} (legible : IsLegible opening) (profile : Profile) :
    added profile opening = .ok ((text? opening).map profile.read) := by
  obtain ⟨file, reply⟩ := opening
  cases reply with
  | error error =>
    have system : error.isA .system = true := legible
    simp [added, system, text?]
  | ok bytes =>
    obtain ⟨text, read⟩ := Option.isSome_iff_exists.mp legible
    have decoded : String.fromUTF8? ⟨bytes.toArray⟩ = some text := read
    simp only [added, decoded, read, Option.map_some]

/-- If a file cannot be decoded, this is the error. -/
theorem added_of_undecodable {file : String} {bytes : List UInt8} {profile : Profile}
    (undecodable : text? (file, .ok bytes) = none) :
    added profile (file, .ok bytes) = .error (.undecodableFile file) := by
  have decoded : String.fromUTF8? ⟨bytes.toArray⟩ = none := undecodable
  simp only [added, decoded]

/-- The files are opened in order; if all are legible, their texts are read in order. -/
theorem path_addFiles {profile : Profile} {files : List String} {history : List (Happening world)}
    {outcome : Except Error (Profile × List String)}
    (path : (addFiles profile files).run.Path history outcome)
    (legible : ∀ opening ∈ openings history, IsLegible opening) :
    (openings history).map (·.1) = files ∧
      outcome = .ok (((readable (openings history)).map (·.2)).foldl Profile.read profile,
        (readable (openings history)).map (·.1)) := by
  -- induction on the files: one that is read extends the profile that the others are read into
  induction files generalizing profile history outcome with
  | nil =>
    obtain ⟨rfl, rfl⟩ := Action.path_pure path
    exact ⟨rfl, rfl⟩
  | cons file rest ih =>
    rcases Action.path_bind path with
      ⟨error, adding, rfl⟩ | ⟨added, first, later, rfl, adding, going⟩
    · obtain ⟨reply, opened, outcome⟩ := path_addFile adding
      rw [opened, List.forall_mem_singleton] at legible
      rw [added_of_isLegible legible] at outcome
      cases outcome
    obtain ⟨reply, opened, outcome⟩ := path_addFile adding
    rw [openings_append, opened, List.singleton_append] at legible ⊢
    obtain ⟨here, others⟩ := List.forall_mem_cons.mp legible
    rw [added_of_isLegible here] at outcome
    have added_eq := Except.ok.inj outcome
    cases read : text? (file, reply) with
    | none =>
      rw [read] at added_eq
      subst added_eq
      obtain ⟨files_eq, outcome_eq⟩ := ih going others
      simp [readable, read, files_eq, outcome_eq]
    | some text =>
      rw [read] at added_eq
      subst added_eq
      rcases Action.path_bind going with
        ⟨error, adding', rfl⟩ | ⟨final, second, _, rfl, adding', finish⟩
      · cases (ih adding' others).2
      · obtain ⟨rfl, rfl⟩ := Action.path_pure finish
        rw [List.append_nil] at others ⊢
        obtain ⟨files_eq, outcome_eq⟩ := ih adding' others
        cases outcome_eq
        simp [readable, read, files_eq]

/-! ## Loading -/

/-- Loading listed files can come to an outcome, with these openings, all of them legible. -/
def Loads (files : List String) (locator : Locator) (opened : List Opening)
    (outcome : Except Error (Option NativeConfiguration)) : Prop :=
  ∃ history, (load (some files) locator).run.Path history outcome ∧ openings history = opened ∧
    ∀ opening ∈ opened, IsLegible opening

/-- The listed files are opened in order, and loading comes to those that could be read. -/
theorem Loads.outcome_eq {files : List String} {locator : Locator} {opened : List Opening}
    {outcome : Except Error (Option NativeConfiguration)}
    (loads : Loads files locator opened outcome) :
    opened.map (·.1) = files ∧ outcome = .ok (loaded? locator (readable opened)) := by
  obtain ⟨history, path, rfl, legible⟩ := loads
  unfold load at path
  simp only [pure_bind] at path
  rcases Action.path_bind path with
    ⟨error, adding, rfl⟩ | ⟨⟨profile, paths⟩, first, later, rfl, adding, finish⟩
  · cases (path_addFiles adding legible).2
  have silent : openings later = [] ∧ outcome =
      .ok (if paths.isEmpty then none else some ⟨profile, paths, locator⟩) := by
    cases none : paths.isEmpty with
    | true =>
      simp only [none, if_true] at finish
      obtain ⟨rfl, rfl⟩ := Action.path_pure finish
      exact ⟨rfl, rfl⟩
    | false =>
      simp only [none, Bool.false_eq_true, if_false] at finish
      obtain ⟨_, rfl, logged⟩ := Action.path_log_bind finish
      obtain ⟨rfl, rfl⟩ := Action.path_pure logged
      exact ⟨rfl, rfl⟩
  rw [openings_append, silent.1, List.append_nil] at legible ⊢
  obtain ⟨files_eq, outcome_eq⟩ := path_addFiles adding legible
  cases outcome_eq
  refine ⟨files_eq, ?_⟩
  rw [silent.2, Profile.foldl_read_empty, loaded?, List.isEmpty_map]

/-- The readable files of two histories follow each other. -/
theorem readable_append (earlier later : List Opening) :
    readable (earlier ++ later) = readable earlier ++ readable later := List.filterMap_append

/-- A file that is legible, but gives no text, could not be opened. -/
theorem readable_eq_nil_iff {opened : List Opening}
    (legible : ∀ opening ∈ opened, IsLegible opening) :
    readable opened = [] ↔ ∀ opening ∈ opened, ∃ error, opening.2 = .error error := by
  simp only [readable, List.filterMap_eq_nil_iff, Option.map_eq_none_iff]
  constructor
  · intro none opening member
    have unread := none opening member
    have readable := legible opening member
    cases reply : opening.2 with
    | error error => exact ⟨error, rfl⟩
    | ok bytes => simp [IsLegible, reply, unread] at readable
  · intro unread opening member
    obtain ⟨error, reply⟩ := unread opening member
    simp [text?, reply]

/-- There is no profile just if no file is readable. -/
theorem loaded?_eq_none_iff {locator : Locator} {files : List (String × String)} :
    loaded? locator files = none ↔ files = [] := by
  cases files <;> simp [loaded?]

/-- The texts alone decide on the profile. -/
theorem map_profile_loaded? (locator : Locator) (files : List (String × String)) :
    (loaded? locator files).map profile =
      if (files.map (·.2)).isEmpty then none else some (mergeAll (files.map (·.2))) := by
  cases files <;> simp [loaded?]

/-- The first file with a key wins. Reading a text merges the profile before it with what the text
gives by itself: each key has the values of the one or of the other, and what is new comes behind.
Loading merges the files that can be read, in order; a file that cannot be opened changes nothing
else wherever it is listed, a text that is listed again adds nothing, and nothing is loaded just if
no file can be read. -/
theorem earlier_file_wins (first : Profile) (distinct : first.IsDistinct) (text : String)
    (locator : Locator) :
    (first.read text = first.merge (Profile.read {} text) ∧
      (∀ name key, (first.read text).values name key =
        if first.has name key then first.values name key
        else (Profile.read {} text).values name key) ∧
      (keys (first.read text).sections = keys first.sections ++
        (keys (Profile.read {} text).sections).filter
          (fun name => !Keyed.has first.sections name)) ∧
      ∀ name, keys ((first.read text).relations name) = keys (first.relations name) ++
        (keys ((Profile.read {} text).relations name)).filter (fun key => !first.has name key)) ∧
    (∀ files opened outcome, Loads files locator opened outcome →
      opened.map (·.1) = files ∧ outcome = .ok (loaded? locator (readable opened)) ∧
      (outcome = .ok none ↔ ∀ opening ∈ opened, ∃ error, opening.2 = .error error)) ∧
    (∀ files others earlier later path error outcome outcome',
      Loads files locator (earlier ++ (path, .error error) :: later) outcome →
        Loads others locator (earlier ++ later) outcome' → outcome = outcome') ∧
    ∀ files others earlier middle later path again bytes outcome outcome',
      Loads files locator (earlier ++ (path, .ok bytes) :: (middle ++ (again, .ok bytes) :: later))
        outcome →
      Loads others locator (earlier ++ (path, .ok bytes) :: (middle ++ later)) outcome' →
        (Option.map profile <$> outcome) = (Option.map profile <$> outcome') := by
  refine ⟨⟨Profile.read_eq_merge distinct text, ?values, ?sections, ?keys⟩, ?loads, ?unreadable,
    ?again⟩
  case values =>
    intro name key
    rw [Profile.read_eq_merge distinct, Profile.values_merge]
  case sections => rw [Profile.read_eq_merge distinct, Profile.keys_sections_merge]
  case keys =>
    intro name
    rw [Profile.read_eq_merge distinct, Profile.relations_merge, Keyed.keys_union]
    rfl
  case loads =>
    intro files opened outcome loads
    obtain ⟨files_eq, outcome_eq⟩ := loads.outcome_eq
    obtain ⟨_, _, _, legible⟩ := loads
    refine ⟨files_eq, outcome_eq, ?_⟩
    rw [outcome_eq, Except.ok.injEq, loaded?_eq_none_iff, readable_eq_nil_iff legible]
  case unreadable =>
    intro files others earlier later path error outcome outcome' loads loads'
    rw [loads.outcome_eq.2, loads'.outcome_eq.2, readable_append, readable_append]
    rfl
  case again =>
    intro files others earlier middle later path again bytes outcome outcome' loads loads'
    -- the same bytes give the same text, and reading a text again adds nothing
    have legible : IsLegible (path, .ok bytes) := by
      obtain ⟨_, _, _, legible⟩ := loads
      exact legible _ (by simp)
    obtain ⟨text, read⟩ := Option.isSome_iff_exists.mp legible
    have read_again : text? (again, .ok bytes) = some text := read
    rw [loads.outcome_eq.2, loads'.outcome_eq.2]
    refine congrArg Except.ok ?_
    simp only [map_profile_loaded?, readable, List.filterMap_append, List.filterMap_cons, read,
      read_again, Option.map_some, List.map_append, List.map_cons, Profile.mergeAll_again]
    simp

/-- A profile with a server for one realm. -/
def oneServer : Profile := ⟨[("realms", [("A.COM.kdc", ["first"])])]⟩

/-- A text with another server for this realm, and with more. -/
def moreServers : String :=
  "[realms]\n A.COM = \x7b\n  kdc = second\n  admin = second\n \x7d\n[domain_realm]\n"

/-- The bytes of this text. -/
def moreBytes : List UInt8 := moreServers.toUTF8.data.toList

/-- A world with this text in one file. -/
def oneFile : Simulation.World where
  files := [("krb5.conf", moreBytes)]

/-- The server that was read first stays, and what is new comes behind; a file that is missing
does no harm. -/
theorem second_server_left_out :
    oneServer.IsDistinct ∧
      oneServer.read moreServers =
        ⟨[("realms", [("A.COM.kdc", ["first"]), ("A.COM.admin", ["second"])]),
          ("domain_realm", [])]⟩ ∧
      ∃ opened outcome, Loads ["missing.conf", "krb5.conf"] .dns opened outcome ∧
        outcome = .ok (some ⟨mergeAll [moreServers], ["krb5.conf"], .dns⟩) := by
  have distinct : oneServer.IsDistinct := by
    unfold Profile.IsDistinct
    decide
  obtain ⟨⟨reads, _⟩, loads, _⟩ := earlier_file_wins oneServer distinct moreServers .dns
  refine ⟨distinct, ?_, ?_⟩
  · rw [reads]
    decide +kernel
  · have path := Dialogue.run_path (fun request state => (oneFile.reply request, state))
      (load (some ["missing.conf", "krb5.conf"]) .dns).run ()
    have text : text? ("krb5.conf", .ok moreBytes) = some moreServers := by decide +kernel
    have legible : IsLegible ("krb5.conf", .ok moreBytes) := Option.isSome_of_eq_some text
    have found : Loads ["missing.conf", "krb5.conf"] .dns
        [("missing.conf", .error (Simulation.failure .system "cannot open missing.conf")),
          ("krb5.conf", .ok moreBytes)] _ :=
      ⟨_, path, rfl, List.forall_mem_cons.mpr ⟨rfl, List.forall_mem_singleton.mpr legible⟩⟩
    obtain ⟨_, outcome, _⟩ := loads _ _ _ found
    refine ⟨_, _, found, ?_⟩
    rw [outcome, readable, List.filterMap_cons, List.filterMap_cons, text]
    rfl

end SignOn.NativeConfiguration
