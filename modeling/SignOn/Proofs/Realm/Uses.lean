import SignOn.Proofs.Dialogue.Carrying
import SignOn.Proofs.Realm.Selection

/-!
# Uses of the chosen validator

The chosen validator is asked for, asked about a realm, asked in a search, or asked while a service
principal name is completed. Once there is one, a use does what it does with that validator at hand
(`Use.start_work_some`). If there is none, a use selects one first, unless it needs none
(`Use.start_work_none`, `Use.start_work_idle`).
-/

set_option autoImplicit false

namespace SignOn

open Dialogue (Happening)

namespace Realm

/-! ## Uses -/

/-- What the chosen validator is used for. -/
inductive Use where
  /-- The validator itself is asked for. -/
  | get (host : String)
  /-- It is asked about a realm. -/
  | validate (host realm : String)
  /-- A host name is searched for a realm. -/
  | find (host : String) (name : Option String)
  /-- A service principal name is completed. -/
  | complete (spn : Option String) (allowCanonical : Bool)

/-- What a use comes to. -/
inductive Result where
  | validator (validator : Validator)
  | verdict (accepted : Bool)
  | realm (realm : Option Realm)
  | name (spn : Option String)

namespace Use

/-- The host name that would help to select a validator; there is none, if none is needed. -/
def probe? : Use → Option String
  | .get host | .validate host _ | .find host _ => some host
  | .complete none _ => none
  | .complete (some text) _ =>
    match ServiceName.parse? text with
    | none => none
    | some name => if name.realm.isSome then none else some name.host

/-- Uses the chosen validator. -/
def work : Use → Procedure Choice world Result
  | .get host => .validator <$> Choice.validator host
  | .validate host realm => .verdict <$> do Procedure.lift ((← Choice.validator host).accepts realm)
  | .find host name =>
    .realm <$> do Procedure.lift (Realm.find (← Choice.validator host).accepts name)
  | .complete spn allowCanonical =>
    .name <$> Procedure.via Enrichment.fromWorld (Enrichment.enrich? spn allowCanonical)

end Use

/-- Answers the requests of enrichment from the world, with a validator at hand. -/
def Validator.answers (validator : Validator) : (request : Enrichment.Request Validator) →
    Action world (Enrichment.Reply request)
  | .probe _ => pure validator
  | .validate other candidate => other.accepts candidate
  | .canonicalize host => Dns.canonicalName host

/-- Does the same with a validator at hand. -/
def Use.workWith (validator : Validator) : Use → Action world Result
  | .get _ => return .validator validator
  | .validate _ realm => .verdict <$> validator.accepts realm
  | .find _ name => .realm <$> Realm.find validator.accepts name
  | .complete spn allowCanonical =>
    .name <$> Action.through validator.answers (Enrichment.enrich? spn allowCanonical)

/-! ## The choice -/

/-- If no validator is chosen, the one that is selected becomes the chosen one. -/
theorem Choice.start_validator_none (host : String) :
    (Choice.validator host).start none =
      (selection host).run.bind fun outcome => .done (outcome, outcome.toOption) := by
  unfold Choice.validator selection
  rw [Procedure.start_get_bind, Procedure.start_lift_bind, Action.run_bind, Dialogue.bind_assoc]
  congr 1
  funext outcome
  cases outcome with
  | error error => rfl
  | ok configuration? =>
    show (Procedure.lift _ >>= _ : Procedure Choice world Validator).start none = _
    rw [Procedure.start_lift_bind]
    congr 1
    funext outcome
    cases outcome <;> rfl

namespace Use

variable {use : Use} {validator : Validator} {host : String}

/-! ## Uses with a validator -/

/-- With a validator at hand its requests are answered by it, and it stays the chosen one. -/
theorem start_fromWorld_some (request : Enrichment.Request Validator) :
    (Enrichment.fromWorld request).start (some validator) =
      (validator.answers request).run.bind fun reply => .done (reply, some validator) := by
  cases request <;> rfl

/-- Once a validator is chosen, a use does what it does with that validator at hand. -/
theorem start_work_some (use : Use) (validator : Validator) :
    use.work.start (some validator) =
      (use.workWith validator).run.bind fun outcome => .done (outcome, some validator) := by
  cases use with
  | get host => rfl
  | validate host realm => exact Procedure.start_map_of_start rfl
  | find host name => exact Procedure.start_map_of_start rfl
  | complete spn allowCanonical =>
    exact Procedure.start_map_of_start (Procedure.start_via start_fromWorld_some _)

/-- The request for a validator is answered by the choice of one. -/
theorem via_probe (host : String) :
    Procedure.via Enrichment.fromWorld (Enrichment.probe host) = Choice.validator host := by
  unfold Enrichment.probe
  rw [Procedure.via_ask]
  rfl

/-- A use that needs a validator begins by asking for the chosen one. -/
theorem work_eq_bind (needed : use.probe? = some host) :
    ∃ next : Validator → Procedure Choice world Result,
      use.work = Choice.validator host >>= next := by
  cases use with
  | get host' =>
    cases needed
    exact ⟨_, map_eq_pure_bind _ _⟩
  | validate host' realm =>
    cases needed
    exact ⟨_, map_bind _ _ _⟩
  | find host' name =>
    cases needed
    exact ⟨_, map_bind _ _ _⟩
  | complete spn allowCanonical =>
    cases spn with
    | none => cases needed
    | some text =>
    cases read : ServiceName.parse? text with
    | none => simp [probe?, read] at needed
    | some name =>
    cases realm : name.realm with
    | some given => simp [probe?, read, realm] at needed
    | none =>
    -- only a name without a realm comes to the search for its host, which asks for a validator
    have probed : name.host = host := by simpa [probe?, read, realm] using needed
    rw [← probed]
    simp only [work, Enrichment.enrich?, Enrichment.enrich, read, realm, Option.isSome_none,
      Bool.false_eq_true, if_false, Enrichment.realmOfHost, bind_assoc, map_bind,
      Procedure.via_bind, via_probe]
    exact ⟨_, rfl⟩

/-- If no validator is chosen, a use that needs one selects it first. If that fails, nothing is
chosen and the error goes on. -/
theorem start_work_none (needed : use.probe? = some host) :
    use.work.start none = (selection host).run.bind (fun
      | .ok validator => use.work.start (some validator)
      | .error error => .done (.error error, none)) := by
  obtain ⟨next, work_eq⟩ := work_eq_bind needed
  rw [work_eq, Procedure.start_bind, Choice.start_validator_none, Dialogue.bind_assoc]
  congr 1
  funext outcome
  cases outcome <;> rfl

/-! ## Uses that need no validator -/

/-- A service principal name needs no validator if there is none to complete, or the text is no such
name, or the name has a realm. -/
theorem probe?_complete_eq_none_iff {spn : Option String} {allowCanonical : Bool} :
    (complete spn allowCanonical).probe? = none ↔
      spn = none ∨ ∃ text, spn = some text ∧ (ServiceName.parse? text = none ∨
        ∃ name, ServiceName.parse? text = some name ∧ name.realm ≠ none) := by
  cases spn with
  | none => simp [probe?]
  | some text =>
    cases read : ServiceName.parse? text with
    | none => simp [probe?, read]
    | some name => cases realm : name.realm <;> simp [probe?, read, realm]

/-- A use that needs no validator does nothing at all. -/
theorem start_work_idle {use : Use} (idle : use.probe? = none) (choice : Choice) :
    ∃ spn allowCanonical, use = .complete spn allowCanonical ∧
      use.work.start choice = .done (.ok (.name spn), choice) := by
  cases use with
  | get host | validate host realm | find host name => cases idle
  | complete spn allowCanonical =>
    refine ⟨spn, allowCanonical, rfl, ?_⟩
    have left : Enrichment.enrich? (V := Validator) spn allowCanonical = pure spn := by
      rcases probe?_complete_eq_none_iff.mp idle with
        rfl | ⟨text, rfl, unread | ⟨name, read, realm⟩⟩
      · rfl
      · simp [Enrichment.enrich?, Enrichment.enrich, unread]
      · simp [Enrichment.enrich?, Enrichment.enrich, read, Option.isSome_iff_ne_none.mpr realm]
    show (Result.name <$> Procedure.via Enrichment.fromWorld
      (Enrichment.enrich? spn allowCanonical)).start choice = _
    rw [left]
    rfl

/-! ## Uses aside from selections -/

open SignOn.Action (confined_pure confined_throw confined_log_pure confined_ask)

/-- A happening during enrichment is no part of a selection; its requests are answered elsewhere. -/
def StaysAside : Happening (Enrichment.collaborators Validator) → Prop
  | .logged event => isOfSelection (.logged event) = false
  | .asked _ _ => True

/-- Looking for the realm of a host is no part of a selection. -/
theorem confined_realmOfHost (host : String) (allowCanonical : Bool) :
    Action.Confined StaysAside (Enrichment.realmOfHost host allowCanonical) := by
  have searching : ∀ validator name,
      Action.Confined StaysAside (Realm.find (Enrichment.validate validator) name) :=
    fun validator => confined_find (fun _ => rfl) fun _ => confined_ask fun _ => trivial
  refine Action.Confined.bind (confined_ask fun _ => trivial) fun validator => ?_
  refine (searching validator (some host)).bind fun found => ?_
  cases found with
  | some realm => exact confined_pure _
  | none =>
  cases allowCanonical with
  | false => exact confined_pure _
  | true =>
  refine (Action.Confined.attempt (confined_ask fun _ => trivial)).bind fun result => ?_
  cases result with
  | ok canonical => exact (searching validator (some canonical)).bind fun _ => confined_pure _
  | error error =>
    show Action.Confined StaysAside (if error.isA .hostResolution then _ else _)
    split
    · exact confined_log_pure (by rfl) _
    · exact confined_throw _

/-- Nor is enrichment as a whole. -/
theorem confined_enrich? (spn : Option String) (allowCanonical : Bool) :
    Action.Confined StaysAside (Enrichment.enrich? spn allowCanonical) := by
  cases spn with
  | none => exact confined_pure _
  | some text =>
    refine Action.Confined.map ?_
    unfold Enrichment.enrich
    split
    · exact confined_pure _
    · split
      · exact confined_pure _
      · refine (confined_realmOfHost _ _).bind fun (found, host) => ?_
        cases found with
        | some realm => exact confined_pure _
        | none => exact confined_log_pure (by rfl) _

/-- With a validator at hand no use selects another. -/
theorem aside_workWith (validator : Validator) (use : Use) : Aside (use.workWith validator) := by
  cases use with
  | get host => exact confined_pure _
  | validate host realm => exact (aside_accepts validator realm).map
  | find host name =>
    exact (confined_find (fun _ => rfl) (aside_accepts validator) name).map
  | complete spn allowCanonical =>
    have answers : ∀ request, Aside (validator.answers request) := by
      intro request
      cases request with
      | probe host => exact confined_pure _
      | validate other candidate => exact aside_accepts other candidate
      | canonicalize host => exact aside_canonicalName host
    have completing : Aside (Action.through validator.answers
        (Enrichment.enrich? spn allowCanonical)) :=
      (confined_enrich? spn allowCanonical).through (fun _ aside => aside) answers
    exact completing.map

end Use

end Realm

end SignOn
