import SignOn.Proofs.Dialogue.Carrying
import SignOn.Proofs.Session.Opening
import SignOn.Proofs.World.Orderly

/-!
# Names completed by default

By default a name is completed with a validator that is chosen when it is first needed, from the
native configuration and the domain name system. Problems of the world are meant to leave a name
without its realm and to do no more. In an orderly world that is what they do, with one exception:
a profile file that cannot be decoded. Main statement: completing a name, or opening a session
without the ASCII-compatible form of host names, comes to a value unless such a file is opened; then
the error of that file is raised, and no validator has been chosen (`names_by_default`).
-/

set_option autoImplicit false

namespace SignOn

open Dialogue (Answerer)
open World (Comes Ends Succeeds)

namespace Enrichment

/-! ## Procedures that choose a validator -/

variable {α β : Type}

/-- How a procedure that may choose a validator ends: a choice that was made is kept, a new one is
made by itself, and after an error there is none. -/
structure Keeps (choice : Realm.Choice) (ending : Except Error α × Realm.Choice) : Prop where
  default : ending.2.IsDefault
  kept : ∀ validator ∈ choice, validator ∈ ending.2
  unchosen : ∀ error, ending.1 = .error error → ending.2 = none

/-- In an orderly world, a procedure that may choose a validator comes to a good value, unless it
opens a file that cannot be decoded. -/
def Copes (procedure : Procedure Realm.Choice world α) (good : α → Prop) : Prop :=
  ∀ choice : Realm.Choice, choice.IsDefault →
    Comes (procedure.start choice) fun opened ending =>
      Ends good opened ending.1 ∧ Keeps choice ending

/-- A sequence copes if its parts do. -/
theorem Copes.bind {good : α → Prop} {after : β → Prop} {first : Procedure Realm.Choice world α}
    {next : α → Procedure Realm.Choice world β} (copes : Copes first good)
    (goes : ∀ value, good value → Copes (next value) after) : Copes (first >>= next) after := by
  intro choice default
  rw [Procedure.start_bind]
  refine (copes choice default).bind ?_
  rintro opened ⟨outcome, middle⟩ ⟨ends, keeps⟩
  cases ends with
  | intact legible holds =>
    refine (goes _ holds middle keeps.default).weaken ?_
    rintro others ending ⟨ends, keeps'⟩
    refine ⟨ends.after legible, keeps'.default, ?_, keeps'.unchosen⟩
    intro validator chosen
    exact keeps'.kept validator (keeps.kept validator chosen)
  | broken legible undecodable =>
    refine World.comes_done ?_
    rw [List.append_nil]
    exact ⟨.broken legible undecodable, keeps.default, keeps.kept,
      fun error _ => keeps.unchosen _ rfl⟩

/-- What succeeds without a choice of a validator copes. -/
theorem copes_lift {action : Action world α} {good : α → Prop} (succeeds : Succeeds action good) :
    Copes (.lift action) good := by
  intro choice default
  rw [Procedure.start_lift]
  refine succeeds.comes.bind ?_
  rintro _ _ ⟨rfl, value, rfl, holds⟩
  exact World.comes_done ⟨.intact nofun holds, default, fun _ chosen => chosen, nofun⟩

/-- A good value copes. -/
theorem copes_pure {value : α} {good : α → Prop} (holds : good value) :
    Copes (pure value) good := by
  intro choice default
  exact World.comes_done ⟨.intact nofun holds, default, fun _ chosen => chosen, nofun⟩

/-- A validator is chosen by itself, or was so before. -/
theorem copes_validator (host : String) :
    Copes (Realm.Choice.validator host) Realm.Validator.IsDefault := by
  intro choice default
  unfold Realm.Choice.validator
  rw [Procedure.start_get_bind]
  cases choice with
  | some chosen =>
    exact World.comes_done ⟨.intact nofun (default chosen rfl), default, fun _ same => same, nofun⟩
  | none =>
    dsimp only
    rw [Procedure.start_lift_bind]
    -- the choice is set last, so there is none if loading fails
    refine Comes.bind World.reads_load ?_
    intro opened outcome ends
    cases ends with
    | broken legible undecodable =>
      refine World.comes_done ?_
      rw [List.append_nil]
      exact ⟨.broken legible undecodable, nofun, nofun, fun _ _ => rfl⟩
    | intact legible locators =>
      dsimp only
      rw [Procedure.start_lift_bind]
      refine (World.succeeds_select locators host).comes.bind ?_
      rintro _ _ ⟨rfl, chosen, rfl, default⟩
      refine World.comes_done ?_
      rw [List.append_nil, List.append_nil]
      refine ⟨.intact legible default, ?_, nofun, nofun⟩
      rintro _ ⟨⟩
      exact default

/-! ## Completing names -/

/-- Carried out with the default validator, a computation comes to a good value, unless a file is
opened that cannot be decoded. -/
def CopesByDefault (action : Action (collaborators Realm.Validator) α) (good : α → Prop) : Prop :=
  Copes (.via fromWorld action) good

/-- A sequence copes by default if its parts do. -/
theorem CopesByDefault.bind {good : α → Prop} {after : β → Prop}
    {first : Action (collaborators Realm.Validator) α}
    {next : α → Action (collaborators Realm.Validator) β} (copes : CopesByDefault first good)
    (goes : ∀ value, good value → CopesByDefault (next value) after) :
    CopesByDefault (first >>= next) after := by
  unfold CopesByDefault
  rw [Procedure.via_bind]
  exact Copes.bind copes goes

/-- A good value copes by default. -/
theorem copesByDefault_pure {value : α} {good : α → Prop} (holds : good value) :
    CopesByDefault (pure value) good := by
  unfold CopesByDefault
  rw [Procedure.via_pure]
  exact copes_pure holds

/-- To log an event copes by default. -/
theorem copesByDefault_log (event : LogEvent) : CopesByDefault (.log event) fun _ => True := by
  unfold CopesByDefault
  rw [Procedure.via_log]
  exact copes_lift (World.succeeds_log event)

/-- By default, the validator that enrichment asks for is one that was selected by default. -/
theorem copes_probe (host : String) : CopesByDefault (probe host) Realm.Validator.IsDefault := by
  unfold CopesByDefault probe
  rw [Procedure.via_ask]
  exact copes_validator host

/-- By default, a validator says whether it accepts a candidate. -/
theorem copes_validate {validator : Realm.Validator} (default : validator.IsDefault)
    (candidate : String) : CopesByDefault (validate validator candidate) fun _ => True := by
  unfold CopesByDefault validate
  rw [Procedure.via_ask]
  exact copes_lift (World.succeeds_accepts default candidate)

/-- All that can go wrong with a canonical name is that the host has none. -/
theorem copes_canonicalize (host : String) :
    CopesByDefault (canonicalize host).attempt fun outcome =>
      ∀ error, outcome = .error error → error.isA .hostResolution = true := by
  unfold CopesByDefault canonicalize
  rw [Procedure.via_attempt, Procedure.via_ask]
  unfold fromWorld
  rw [Procedure.attempt_lift]
  exact copes_lift (World.quiet_canonicalName host).attempt

/-- By default, candidates are asked about until one is accepted. -/
theorem copes_firstAccepted {validator : Realm.Validator} (default : validator.IsDefault)
    (texts : List String) :
    CopesByDefault (Realm.firstAccepted (validate validator) texts) fun _ => True := by
  induction texts with
  | nil => exact copesByDefault_pure trivial
  | cons candidate rest ih =>
    unfold Realm.firstAccepted
    refine (copesByDefault_log _).bind fun _ _ => ?_
    refine (copes_validate default candidate).bind fun accepted _ => ?_
    cases accepted with
    | true => exact copesByDefault_pure trivial
    | false => exact ih

/-- By default, the search for a realm in a host name comes to an end. -/
theorem copes_find {validator : Realm.Validator} (default : validator.IsDefault) (host : String) :
    CopesByDefault (Realm.find (validate validator) (some host)) fun _ => True :=
  copes_firstAccepted default _

/-- By default, the realm of a host is found or found missing. -/
theorem copes_realmOfHost (host : String) (allowed : Bool) :
    CopesByDefault (realmOfHost host allowed) fun _ => True := by
  unfold realmOfHost
  refine (copes_probe host).bind fun validator default => ?_
  refine (copes_find default host).bind fun found _ => ?_
  cases found with
  | some realm => exact copesByDefault_pure trivial
  | none =>
    dsimp only
    split
    · refine (copes_canonicalize host).bind fun outcome unresolved => ?_
      cases outcome with
      | ok canonical =>
        exact (copes_find default canonical).bind fun _ _ => copesByDefault_pure trivial
      | error error =>
        simp only [unresolved error rfl, if_true]
        exact (copesByDefault_log _).bind fun _ _ => copesByDefault_pure trivial
    · exact copesByDefault_pure trivial

/-- By default, a name is completed or left as it is. -/
theorem copes_enrich (spn : String) (allowed : Bool) :
    CopesByDefault (enrich spn allowed) fun _ => True := by
  unfold enrich
  cases ServiceName.parse? spn with
  | none => exact copesByDefault_pure trivial
  | some name =>
    dsimp only
    split
    · exact copesByDefault_pure trivial
    · refine (copes_realmOfHost name.host allowed).bind fun located _ => ?_
      obtain ⟨_ | realm, host⟩ := located
      · exact (copesByDefault_log _).bind fun _ _ => copesByDefault_pure trivial
      · exact copesByDefault_pure trivial

end Enrichment

/-! ## Opening sessions -/

namespace Session

open Enrichment

variable {P : Peers} {settings : Settings}

/-- Without the ASCII-compatible form there is always a name to begin with. -/
theorem copes_settle (plain : settings.serverNameAsAce = false) (host : String) (port : Int) :
    CopesByDefault (settle settings host port) fun _ => True := by
  unfold settle
  rw [plain]
  cases settings.serverSpn with
  | some given => exact copesByDefault_pure trivial
  | none =>
    dsimp only
    unfold ServiceName.derive
    refine (copesByDefault_log _).bind fun _ _ => ?_
    have built : ServiceName.derived host port false = .ok (ServiceName.textFor host port) := rfl
    rw [built]
    exact (copesByDefault_log _).bind fun _ _ => copesByDefault_pure trivial

/-- By default, a session is opened if its settings do not ask for encoded host names. -/
theorem copes_start (plain : settings.serverNameAsAce = false) (host : String) (port : Int) :
    CopesByDefault (start settings host port : Action _ (Session P)) fun _ => True := by
  rw [start_eq]
  refine (copes_settle plain host port).bind fun spn _ => ?_
  refine (copes_enrich spn _).bind fun enriched _ => ?_
  dsimp only
  split
  · exact (copesByDefault_log _).bind fun _ _ => copesByDefault_pure trivial
  · exact copesByDefault_pure trivial

/-- Completing a name with the default validator. -/
def completion (spn : String) (allowed : Bool) : Procedure Realm.Choice world String :=
  .via fromWorld (enrich spn allowed)

/-- Opening a session with the default validator. -/
def openingByDefault (P : Peers) (settings : Settings) (host : String) (port : Int) :
    Procedure Realm.Choice world (Session P) :=
  .via fromWorld (start settings host port)

/-! ## Runs in an orderly world -/

variable {α σ : Type}

/-- A run of a procedure that may choose a validator ends with a value, unless the last file that
was opened cannot be decoded. -/
def Survives (choice : Realm.Choice)
    (run : Dialogue.Outcome world σ (Except Error α × Realm.Choice)) : Prop :=
  Ends (fun _ => True) (NativeConfiguration.openings run.history) run.value.1 ∧
    Keeps choice run.value

/-- What copes survives in every orderly world. -/
theorem survives_of_copes {answer : Answerer world σ}
    (orderly : ∀ request state, World.isOrderly (.asked request (answer request state).1) = true)
    {procedure : Procedure Realm.Choice world α} (copes : Copes procedure fun _ => True)
    {choice : Realm.Choice} (default : choice.IsDefault) (state : σ) :
    Survives choice ((procedure.start choice).run answer state) := by
  refine copes choice default _ _ (Dialogue.run_path answer _ state) ?_
  intro happening member
  have given := Dialogue.isGivenBy_run answer _ state happening member
  cases happening with
  | logged event => rfl
  | asked request reply =>
    obtain ⟨asked, rfl⟩ := given
    exact orderly request asked

/-- In an orderly world, problems with realms leave names as they are: to complete a name, or to
open a session without the ASCII-compatible form of host names, comes to a value, unless a file is
opened that cannot be decoded. The error is that of this file then, nothing is opened after it, and
there is still no validator; once there is one, it is kept and nothing fails. -/
theorem names_by_default {answer : Answerer world σ}
    (orderly : ∀ request state, World.isOrderly (.asked request (answer request state).1) = true)
    {choice : Realm.Choice} (default : choice.IsDefault) (state : σ) :
    (∀ spn allowed,
      Survives choice (((completion spn allowed).start choice).run answer state)) ∧
    ∀ (P : Peers) (settings : Settings) (host : String) (port : Int),
      settings.serverNameAsAce = false →
        Survives choice
          (((openingByDefault P settings host port).start choice).run answer state) := by
  constructor
  · intro spn allowed
    exact survives_of_copes orderly (copes_enrich spn allowed) default state
  · intro P settings host port plain
    exact survives_of_copes orderly (copes_start plain host port) default state

/-- A world with one profile file, of a single byte that begins no text. -/
def strayByte : Simulation.World where
  profileVariable := some "/k"
  files := [("/k", [255])]

/-- The answers of this world. -/
def strayAnswer : Answerer world Unit := fun request state => (strayByte.reply request, state)

/-- The world with the stray byte is orderly. -/
theorem isOrderly_strayAnswer (request : World.Request) (state : Unit) :
    World.isOrderly (.asked request (strayAnswer request state).1) = true := by
  cases request with
  | file path =>
    unfold strayAnswer Simulation.World.reply
    dsimp only
    split <;> rfl
  | profileVariable | serviceRecords | addresses | hostName | kdcServers => rfl

/-- Completing a name in that world. -/
theorem stray_byte_survives :
    Survives none (((completion "MSSQLSvc/db:1433" false).start none).run strayAnswer ()) := by
  have unchosen : Realm.Choice.IsDefault none := nofun
  exact (names_by_default isOrderly_strayAnswer unchosen ()).1 "MSSQLSvc/db:1433" false

/-- The name does not stay as it is. -/
theorem stray_byte_raises :
    (∀ request state, World.isOrderly (.asked request (strayAnswer request state).1) = true) ∧
      (((completion "MSSQLSvc/db:1433" false).start none).run strayAnswer ()).value.1 =
        .error (.undecodableFile "/k") := by
  refine ⟨isOrderly_strayAnswer, ?_⟩
  rfl

end Session

end SignOn
