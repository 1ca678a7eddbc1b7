import SignOn.Proofs.Profile.Loading
import SignOn.Realm.Validator

/-!
# Computations in an orderly world

A world is orderly if its services fail only in the ways that they are documented to fail
(`isOrderly`); what files contain is not restricted. Most computations over an orderly world open no
file and come to a value: `Succeeds` says so, and `Quiet` is the rule behind it for those whose
error is looked at later. To load the native configuration is to open files, and of everything
asked for only a file that cannot be decoded raises an error then (`Lasts`).
-/

set_option autoImplicit false

namespace SignOn

namespace Realm

/-- A validator as it is chosen by itself: what the profile leaves open it looks up in the domain
name system. -/
def Validator.IsDefault : Validator → Prop
  | .native configuration => configuration.locator = .dns
  | .dns => True

/-- If there is a choice, it is one that was made by itself. -/
def Choice.IsDefault (choice : Choice) : Prop := ∀ validator ∈ choice, validator.IsDefault

end Realm

namespace World

open Dialogue (Happening)
open NativeConfiguration (Opening IsLegible openings openings_append text?)

/-! ## Orderly worlds -/

/-- A happening in which a service of the world does not fail, or fails the way it may. -/
def isOrderly : Happening world → Bool
  | .asked .profileVariable (.error _) => false
  | .asked (.file _) (.error error) | .asked (.hostName _) (.error error) => error.isA .system
  | .asked (.serviceRecords _) (.error error) => error.isA .dns
  | .asked (.addresses _) (.error error) => error.isA .addressLookup || error.isA .unicode
  | .asked (.addresses _) (.ok found) => !List.isEmpty found
  | _ => true

/-- An orderly world refuses to open a file, or gives the bytes in it. -/
theorem orderly_opening {history : List (Happening world)}
    (orderly : ∀ happening ∈ history, isOrderly happening = true) {file : String} {error : Error}
    (opened : (file, .error error) ∈ openings history) : error.isA .system = true := by
  obtain ⟨happening, member, same⟩ := List.mem_filterMap.mp opened
  cases happening with
  | logged event => cases same
  | asked request reply =>
    cases request <;> cases same
    exact orderly _ member

/-! ## What computations come to -/

variable {α β : Type}

/-- In an orderly world, the files that a dialogue opens and its value are as `post` says. -/
def Comes (dialogue : Dialogue world α) (post : List Opening → α → Prop) : Prop :=
  ∀ history value, dialogue.Path history value →
    (∀ happening ∈ history, isOrderly happening = true) → post (openings history) value

/-- A sequence opens the files of its parts, and its value is that of the second part. -/
theorem Comes.bind {middle : List Opening → α → Prop} {post : List Opening → β → Prop}
    {first : Dialogue world α} {next : α → Dialogue world β} (comes : Comes first middle)
    (goes : ∀ opened value, middle opened value →
      Comes (next value) fun others last => post (opened ++ others) last) :
    Comes (first.bind next) post := by
  intro history value path orderly
  obtain ⟨earlier, between, later, rfl, path, rest⟩ := Dialogue.path_bind_iff.mp path
  rw [List.forall_mem_append] at orderly
  rw [openings_append]
  exact goes _ _ (comes _ _ path orderly.1) _ _ rest orderly.2

/-- A value opens no file. -/
theorem comes_done {value : α} {post : List Opening → α → Prop} (holds : post [] value) :
    Comes (.done value) post := by
  intro history other path _
  obtain ⟨rfl, rfl⟩ := Dialogue.path_done_iff.mp path
  exact holds

/-- What is said of the files and the value may be weakened. -/
theorem Comes.weaken {post weaker : List Opening → α → Prop} {dialogue : Dialogue world α}
    (comes : Comes dialogue post)
    (weaken : ∀ opened value, post opened value → weaker opened value) :
    Comes dialogue weaker := by
  intro history value path orderly
  exact weaken _ _ (comes history value path orderly)

/-- In an orderly world, a computation opens no file, and its outcome is as `post` says. -/
def Quiet (action : Action world α) (post : Except Error α → Prop) : Prop :=
  Comes action.run fun opened outcome => opened = [] ∧ post outcome

/-- In an orderly world, a computation opens no file and comes to a good value. -/
def Succeeds (action : Action world α) (good : α → Prop) : Prop :=
  Quiet action fun outcome => ∃ value, outcome = .ok value ∧ good value

/-- An error opens no file. -/
theorem quiet_throw {error : Error} {post : Except Error α → Prop} (holds : post (.error error)) :
    Quiet (throw error) post :=
  comes_done ⟨rfl, holds⟩

/-- A value opens no file. -/
theorem quiet_pure {value : α} {post : Except Error α → Prop} (holds : post (.ok value)) :
    Quiet (pure value) post :=
  comes_done ⟨rfl, holds⟩

/-- To return a good value succeeds. -/
theorem succeeds_pure {value : α} {good : α → Prop} (holds : good value) :
    Succeeds (pure value) good :=
  quiet_pure ⟨value, rfl, holds⟩

/-- What succeeds opens no file and has a good value. -/
theorem Succeeds.comes {action : Action world α} {good : α → Prop}
    (succeeds : Succeeds action good) :
    Comes action.run fun opened outcome =>
      opened = [] ∧ ∃ value, outcome = .ok value ∧ good value :=
  succeeds

/-- A sequence that begins with a success goes on with a good value. -/
theorem Succeeds.bind {good : α → Prop} {post : Except Error β → Prop} {first : Action world α}
    {next : α → Action world β} (succeeds : Succeeds first good)
    (goes : ∀ value, good value → Quiet (next value) post) : Quiet (first >>= next) post := by
  unfold Quiet
  rw [Action.run_bind]
  refine succeeds.comes.bind ?_
  rintro opened outcome ⟨rfl, value, rfl, holds⟩
  exact goes value holds

/-- The outcome of an attempt can be looked at. -/
theorem Quiet.attempt {action : Action world α} {post : Except Error α → Prop}
    (quiet : Quiet action post) : Succeeds action.attempt post := by
  unfold Quiet at quiet
  unfold Succeeds Quiet
  rw [Action.run_attempt]
  refine quiet.bind ?_
  rintro opened outcome ⟨rfl, holds⟩
  exact comes_done ⟨rfl, outcome, rfl, holds⟩

/-- To log an event succeeds. -/
theorem succeeds_log (event : LogEvent) : Succeeds (.log event) fun _ => True := by
  intro history outcome path _
  rw [Action.run_log] at path
  obtain ⟨later, rfl, finish⟩ := Dialogue.path_log_iff.mp path
  obtain ⟨rfl, rfl⟩ := Dialogue.path_done_iff.mp finish
  exact ⟨rfl, (), rfl, trivial⟩

/-- A request for something else than a file opens no file, and the reply is orderly. -/
theorem quiet_ask {request : Request} (other : ∀ file, request ≠ .file file := by simp) :
    Quiet (Action.ask (I := world) request) fun reply =>
      isOrderly (.asked request reply) = true := by
  intro history outcome path orderly
  have asked := Action.path_ask path
  rw [asked, List.forall_mem_singleton] at orderly
  rw [asked]
  refine ⟨?_, orderly⟩
  cases request with
  | file file => exact absurd rfl (other file)
  | profileVariable | serviceRecords | addresses | hostName | kdcServers => rfl

/-! ## The name services -/

/-- To ask for the records of a name succeeds, though there may be none. -/
theorem succeeds_recordsOf (name : String) : Succeeds (Dns.recordsOf name) fun _ => True := by
  unfold Dns.recordsOf World.serviceRecords
  refine (quiet_ask).attempt.bind ?_
  intro reply orderly
  cases reply with
  | ok records => exact succeeds_pure trivial
  | error error =>
    have failed : error.isA .dns = true := orderly
    simp only [failed, if_true]
    exact (succeeds_log _).bind fun _ _ => succeeds_pure trivial

/-- To look for the servers of a realm succeeds, though there may be none. -/
theorem succeeds_discoverServers (realm : String) :
    Succeeds (Dns.discoverServers realm) fun _ => True := by
  unfold Dns.discoverServers
  refine (succeeds_recordsOf _).bind fun overTcp _ => ?_
  exact (succeeds_recordsOf _).bind fun overUdp _ => succeeds_pure trivial

/-- To find out whether a realm has servers succeeds. -/
theorem succeeds_locateRealm (realm : Option String) :
    Succeeds (Dns.locateRealm realm) fun _ => True := by
  unfold Dns.locateRealm
  cases realm with
  | none => exact succeeds_pure trivial
  | some text =>
    dsimp only
    split
    · exact succeeds_pure trivial
    · refine (succeeds_discoverServers _).bind fun servers _ => ?_
      exact (succeeds_log _).bind fun _ _ => succeeds_pure trivial

/-- All that can go wrong with a canonical name is that the host has none. -/
theorem quiet_canonicalName (host : String) :
    Quiet (Dns.canonicalName host) fun outcome =>
      ∀ error, outcome = .error error → error.isA .hostResolution = true := by
  unfold Dns.canonicalName World.addresses World.hostName
  refine (quiet_ask).attempt.bind ?_
  intro reply orderly
  match reply with
  | .error error =>
    have failed : (error.isA .addressLookup || error.isA .unicode) = true := orderly
    simp only [failed, if_true]
    refine quiet_throw ?_
    rintro _ ⟨⟩
    rfl
  | .ok [] => cases orderly
  | .ok (address :: others) =>
    have named : ∀ name : String, Quiet (pure name) fun outcome =>
        ∀ error, outcome = .error error → error.isA .hostResolution = true :=
      fun name => quiet_pure nofun
    refine (quiet_ask).attempt.bind ?_
    intro reply orderly
    cases reply with
    | ok name => exact (succeeds_log _).bind fun _ _ => named name
    | error error =>
      have failed : error.isA .system = true := orderly
      simp only [failed, if_true]
      exact (succeeds_log _).bind fun _ _ => named address

/-! ## Validators -/

/-- By default, to list the servers of a realm succeeds. -/
theorem succeeds_servers {configuration : NativeConfiguration}
    (default : configuration.locator = .dns) (realm : String) :
    Succeeds (configuration.servers realm) fun _ => True := by
  unfold NativeConfiguration.servers NativeConfiguration.locate
  rw [default]
  split
  · exact succeeds_pure trivial
  · split
    · exact (succeeds_discoverServers realm).bind fun _ _ => succeeds_pure trivial
    · exact succeeds_pure trivial

/-- By default, the native configuration either accepts a realm or rejects it. -/
theorem succeeds_nativeAccepts {configuration : NativeConfiguration}
    (default : configuration.locator = .dns) (realm : String) :
    Succeeds (Realm.Validator.nativeAccepts configuration realm) fun _ => True := by
  unfold Realm.Validator.nativeAccepts
  refine (succeeds_servers default realm).attempt.bind ?_
  rintro outcome ⟨servers, rfl, _⟩
  exact succeeds_pure trivial

/-- A validator that was chosen by itself either accepts a realm or rejects it. -/
theorem succeeds_accepts {validator : Realm.Validator} (default : validator.IsDefault)
    (realm : String) : Succeeds (validator.accepts realm) fun _ => True := by
  cases validator with
  | native configuration => exact succeeds_nativeAccepts default realm
  | dns => exact succeeds_locateRealm (some realm)

/-- The choice of a validator is one by itself, if that of the configuration was. -/
theorem succeeds_select {configuration? : Option NativeConfiguration}
    (default : ∀ configuration ∈ configuration?, configuration.locator = .dns) (host : String) :
    Succeeds (Realm.Validator.select configuration? host) Realm.Validator.IsDefault := by
  unfold Realm.Validator.select Realm.Validator.passesSelfTest
  cases configuration? with
  | none => exact (succeeds_log _).bind fun _ _ => succeeds_pure trivial
  | some configuration =>
    have locator : configuration.locator = .dns := default configuration rfl
    have tested : Succeeds (do
        return !(← Realm.Validator.nativeAccepts configuration
          (Realm.Validator.impossibleStart ++ host))) fun _ => True :=
      (succeeds_nativeAccepts locator _).bind fun _ _ => succeeds_pure trivial
    refine tested.bind fun passed _ => ?_
    split
    · exact (succeeds_log _).bind fun _ _ => succeeds_pure locator
    · exact (succeeds_log _).bind fun _ _ => succeeds_pure trivial

/-! ## Reading files -/

/-- All files that were opened are legible and there is a good value; or the last one cannot be
decoded, and this is the error. -/
inductive Ends (good : α → Prop) : List Opening → Except Error α → Prop where
  | intact {opened : List Opening} {value : α} (legible : ∀ opening ∈ opened, IsLegible opening)
      (holds : good value) : Ends good opened (.ok value)
  | broken {earlier : List Opening} {path : String} {bytes : List UInt8}
      (legible : ∀ opening ∈ earlier, IsLegible opening)
      (undecodable : text? (path, .ok bytes) = none) :
      Ends good (earlier ++ [(path, .ok bytes)]) (.error (.undecodableFile path))

/-- In an orderly world, a computation comes to a good value, unless it opens a file that cannot be
decoded. -/
def Reads (action : Action world α) (good : α → Prop) : Prop := Comes action.run (Ends good)

/-- What succeeds opens no file, so none that cannot be decoded. -/
theorem Succeeds.reads {action : Action world α} {good : α → Prop}
    (succeeds : Succeeds action good) : Reads action good := by
  refine succeeds.comes.weaken ?_
  rintro _ _ ⟨rfl, value, rfl, holds⟩
  exact .intact nofun holds

/-- Legible files may have been opened before. -/
theorem Ends.after {good : α → Prop} {earlier opened : List Opening} {outcome : Except Error α}
    (legible : ∀ opening ∈ earlier, IsLegible opening) (ends : Ends good opened outcome) :
    Ends good (earlier ++ opened) outcome := by
  cases ends with
  | intact later holds => exact .intact (List.forall_mem_append.mpr ⟨legible, later⟩) holds
  | broken later undecodable =>
    rw [← List.append_assoc]
    exact .broken (List.forall_mem_append.mpr ⟨legible, later⟩) undecodable

/-- A sequence comes to a good value if its parts do, unless one of them opens a file that cannot be
decoded. -/
theorem Reads.bind {good : α → Prop} {after : β → Prop} {first : Action world α}
    {next : α → Action world β} (reads : Reads first good)
    (goes : ∀ value, good value → Reads (next value) after) : Reads (first >>= next) after := by
  unfold Reads at reads ⊢
  rw [Action.run_bind]
  refine reads.bind ?_
  intro opened outcome ends
  cases ends with
  | intact legible holds => exact (goes _ holds).weaken fun _ _ ends => ends.after legible
  | broken legible undecodable =>
    refine comes_done ?_
    rw [List.append_nil]
    exact .broken legible undecodable

/-- A file is added to a profile, unless it cannot be decoded. -/
theorem reads_addFile (profile : Profile) (file : String) :
    Reads (NativeConfiguration.addFile profile file) fun _ => True := by
  intro history outcome path orderly
  obtain ⟨reply, opened, rfl⟩ := NativeConfiguration.path_addFile path
  have here : (file, reply) ∈ NativeConfiguration.openings history := by simp [opened]
  rw [opened]
  by_cases legible : IsLegible (file, reply)
  · rw [NativeConfiguration.added_of_isLegible legible]
    exact .intact (List.forall_mem_singleton.mpr legible) trivial
  · cases reply with
    | error error => exact absurd (orderly_opening orderly here) legible
    | ok bytes =>
      have undecodable : text? (file, .ok bytes) = none :=
        Option.not_isSome_iff_eq_none.mp legible
      rw [NativeConfiguration.added_of_undecodable undecodable]
      exact @Ends.broken _ _ [] file bytes nofun undecodable

/-- Files are added to a profile one after the other, unless one cannot be decoded. -/
theorem reads_addFiles (profile : Profile) (files : List String) :
    Reads (NativeConfiguration.addFiles profile files) fun _ => True := by
  induction files generalizing profile with
  | nil => exact (succeeds_pure trivial).reads
  | cons file rest ih =>
    unfold NativeConfiguration.addFiles
    refine (reads_addFile profile file).bind fun added _ => ?_
    cases added with
    | none => exact ih profile
    | some extended => exact (ih extended).bind fun _ _ => (succeeds_pure trivial).reads

/-- To read the setting of the profile files succeeds. -/
theorem succeeds_profileVariable : Succeeds profileVariable fun _ => True := by
  unfold Succeeds Quiet profileVariable
  refine Comes.weaken quiet_ask ?_
  rintro _ outcome ⟨rfl, orderly⟩
  cases outcome with
  | ok setting => exact ⟨rfl, setting, rfl, trivial⟩
  | error error => cases orderly

/-- The configuration of the host looks up in the domain name system what its profile leaves
open. -/
theorem reads_load : Reads (NativeConfiguration.load none .dns) fun configuration? =>
    ∀ configuration ∈ configuration?, configuration.locator = .dns := by
  unfold NativeConfiguration.load
  simp only [map_eq_pure_bind, LawfulMonad.bind_assoc, pure_bind]
  refine succeeds_profileVariable.reads.bind fun setting _ => ?_
  refine (reads_addFiles _ _).bind fun loaded _ => ?_
  split
  · exact (succeeds_pure nofun).reads
  · refine (succeeds_log _).reads.bind fun _ _ => (succeeds_pure ?_).reads
    rintro _ ⟨⟩
    rfl

end World

end SignOn
