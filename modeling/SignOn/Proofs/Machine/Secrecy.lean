import Mathlib.Data.List.Find
import Mathlib.Data.List.Forall2
import SignOn.Machine.Event
import SignOn.Proofs.Machine.Traces

/-!
# What a machine gives away of events

Records show the class of an event and its public fields, and of bytes no more than their number.
Events resemble each other if they differ in nothing else (`Resembles`). A machine whose guards look
at the next state, the class of the event and the length of the history only answers such events
alike, accepted or not, and is the same machine afterwards (`Running.process_eq`). Main statement:
two runs in which the events resemble each other one by one disclose the same
(`secrets_undisclosed`).
-/

set_option autoImplicit false

namespace SignOn.Machine

variable {S K E : Type}

/-! ## Events that resemble each other -/

/-- The contents of two fields are the same, or they are bytes of the same number. -/
inductive Field.Agrees : Field → Field → Prop where
  | plain (value : Value) : Agrees (.plain value) (.plain value)
  | bytes {content other : List UInt8} (lengths : content.length = other.length) :
      Agrees (.bytes content) (.bytes other)
  | member (name : String) : Agrees (.member name) (.member name)

/-- Fields that agree are shown alike. -/
theorem Field.Agrees.shown_eq {field other : Field} (agrees : field.Agrees other) :
    field.shown = other.shown := by
  cases agrees with
  | plain value => rfl
  | bytes lengths => rw [shown, shown, lengths]
  | member name => rfl

/-- Two fields have one name, and unless it is private their contents agree. -/
def AgreePublicly (field other : String × Field) : Prop :=
  field.1 = other.1 ∧ (isPrivate field.1 = false → field.2.Agrees other.2)

/-- The fields of two events agree, as far as they are public. Whether there are fields at all is
decided by the class. -/
inductive FieldsAgree :
    Option (List (String × Field)) → Option (List (String × Field)) → Prop where
  | undeclared : FieldsAgree none none
  | declared {fields others : List (String × Field)}
      (agree : List.Forall₂ AgreePublicly fields others) :
      FieldsAgree (some fields) (some others)

/-- Events of one class whose fields agree show the same details. -/
theorem Event.details_eq {event other : Event} (kinds : event.kind = other.kind)
    (agree : FieldsAgree event.fields other.fields) : event.details = other.details := by
  obtain ⟨kind, fields⟩ := event
  obtain ⟨kind', others⟩ := other
  cases kinds
  cases agree with
  | undeclared => rfl
  | declared agree =>
    simp only [details]
    induction agree with
    | nil => rfl
    | cons first rest ih =>
      obtain ⟨names, contents⟩ := first
      rw [List.filter_cons, List.filter_cons, ← names]
      split
      · next publicly =>
        have shown := (contents (by simpa using publicly)).shown_eq
        rw [List.map_cons, List.map_cons, names, shown, ih]
      · exact ih

/-- The rules show of an event its class and its public fields; `view` says which event it is. -/
structure Rules.Shows (rules : Rules S K E) (view : E → Event) : Prop where
  kindName : ∀ event, rules.kindName (rules.kind event) = (view event).kind
  details : ∀ event, rules.details event = (view event).details

/-- The rules of a table show events as they are. -/
theorem Event.shows_rules (table : List (String × String × String)) :
    (Event.rules table).Shows id :=
  ⟨fun _ => rfl, fun _ => rfl⟩

/-- Two events are of one class, and their public fields agree. -/
structure Resembles (rules : Rules S K E) (view : E → Event) (event other : E) : Prop where
  kind_eq : rules.kind event = rules.kind other
  fields : FieldsAgree (view event).fields (view other).fields

/-- Events that resemble each other are shown alike. -/
theorem Resembles.details_eq {rules : Rules S K E} {view : E → Event} (shows : rules.Shows view)
    {event other : E} (alike : Resembles rules view event other) :
    rules.details event = rules.details other := by
  rw [shows.details, shows.details]
  refine Event.details_eq ?_ alike.fields
  rw [← shows.kindName, ← shows.kindName, alike.kind_eq]

/-! ## Guards without insight -/

/-- A guard looks at the next state, the class of the event and the length of the history only. -/
def Guard.IsBlind (rules : Rules S K E) (guard : Guard S K E) : Prop :=
  ∃ decides : S → K → Nat → Bool, ∀ state history target event,
    guard.allows state history target event = decides target (rules.kind event) history.length

/-- The guard of a state looks at the next state only. -/
theorem Guard.isBlind_neverEnters (rules : Rules S K E) (name state : String) :
    (neverEnters rules name state).IsBlind rules :=
  ⟨fun target _ _ => rules.stateName target != state, fun _ _ _ _ => rfl⟩

/-- The guard against a class of events looks at the class only. -/
theorem Guard.isBlind_neverAccepts (rules : Rules S K E) (name kind : String) :
    (neverAccepts rules name kind).IsBlind rules :=
  ⟨fun _ given _ => rules.kindName given != kind, fun _ _ _ _ => rfl⟩

/-- The bound on transitions looks at the length of the history only. -/
theorem Guard.isBlind_atMost (rules : Rules S K E) (name : String) (limit : Int) :
    (atMost name limit).IsBlind rules :=
  ⟨fun _ _ length => decide (Int.ofNat length < limit), fun _ _ _ _ => rfl⟩

/-! ## Steps -/

section Steps

variable {rules : Rules S K E} {view : E → Event} {machine : Running S K E} {event other : E}

/-- The same guard objects to events of one class. -/
theorem Running.objection?_eq (blind : ∀ guard ∈ machine.guards, guard.IsBlind rules)
    (kinds : rules.kind event = rules.kind other) (target : S) :
    machine.objection? target event = machine.objection? target other := by
  apply List.find?_congr
  intro guard member
  obtain ⟨decides, allows_eq⟩ := blind guard member
  rw [allows_eq, allows_eq, kinds]

/-- Blind guards judge events of one class alike. -/
theorem Running.judge_eq (blind : ∀ guard ∈ machine.guards, guard.IsBlind rules)
    (kinds : rules.kind event = rules.kind other) :
    machine.judge rules event = machine.judge rules other := by
  cases provided : rules.next machine.state (rules.kind event) with
  | none =>
    have provided' := kinds ▸ provided
    rw [Running.judge_of_none provided, Running.judge_of_none provided']
  | some target =>
    have provided' := kinds ▸ provided
    rw [Running.judge_of_some provided, Running.judge_of_some provided',
      Running.objection?_eq blind kinds]

/-- Events that resemble each other get the same verdict and leave the same machine. -/
theorem Running.process_eq (shows : rules.Shows view)
    (blind : ∀ guard ∈ machine.guards, guard.IsBlind rules)
    (alike : Resembles rules view event other) :
    machine.process rules event = machine.process rules other := by
  have judged := Running.judge_eq blind alike.kind_eq
  rcases machine.process_cases rules event with
    ⟨target, accepted, processed⟩ | ⟨rejected, processed⟩
  · rcases machine.process_cases rules other with ⟨target', accepted', processed'⟩ | ⟨rejected', _⟩
    · rw [judged, accepted', Verdict.accepted.injEq] at accepted
      rw [processed, processed', accepted, Running.moved, Running.moved, alike.kind_eq,
        alike.details_eq shows]
    · exact absurd (judged ▸ accepted) (rejected' target)
  · rcases machine.process_cases rules other with ⟨target', accepted', _⟩ | ⟨_, processed'⟩
    · exact absurd (judged.trans accepted') (rejected target')
    · rw [processed, processed', judged]

end Steps

/-! ## Runs -/

/-- How a machine responds to an event: with its verdict, the error if the event was not accepted,
and the event that is logged. -/
structure Response (S : Type) where
  verdict : Verdict S
  error : Option Error
  logged : LogEvent

/-- What is disclosed after a command: the response to an event that was given, the state, and the
trace of all accepted events so far. -/
structure Disclosure (S K : Type) where
  response : Option (Response S)
  state : S
  trace : List (Transition S K)

/-- How a machine responds to a command. -/
def Running.response (rules : Rules S K E) (machine : Running S K E) :
    Command S K E → Option (Response S)
  | .give event =>
    some ⟨(machine.process rules event).1, machine.error? rules event, machine.logged rules event⟩
  | .register _ => none

/-- What a machine discloses during a run of commands, command by command. -/
def Running.disclosures (rules : Rules S K E) :
    Running S K E → List (Command S K E) → List (Disclosure S K)
  | _, [] => []
  | machine, command :: rest =>
    let after := machine.obey rules command
    ⟨machine.response rules command, after.state, after.history⟩ :: after.disclosures rules rest

/-- Two commands give events that resemble each other, or register one guard that looks at no more
than it may. -/
inductive SameCommand (rules : Rules S K E) (view : E → Event) :
    Command S K E → Command S K E → Prop where
  | give {event other : E} (alike : Resembles rules view event other) :
      SameCommand rules view (.give event) (.give other)
  | register (guard : Guard S K E) (blind : guard.IsBlind rules) :
      SameCommand rules view (.register guard) (.register guard)

section Commands

variable {rules : Rules S K E} {view : E → Event} {machine : Running S K E}
  {command command' : Command S K E}

/-- The same command gets the same response and leaves the same machine. -/
theorem SameCommand.response_eq (shows : rules.Shows view)
    (blind : ∀ guard ∈ machine.guards, guard.IsBlind rules)
    (same : SameCommand rules view command command') :
    machine.response rules command = machine.response rules command' ∧
      machine.obey rules command = machine.obey rules command' := by
  cases same with
  | give alike =>
    have processed := Running.process_eq shows blind alike
    have judged := Running.judge_eq blind alike.kind_eq
    constructor
    · simp only [Running.response, Running.error?, Running.logged, processed, judged, alike.kind_eq]
    · simp only [Running.obey, processed]
  | register guard guardBlind => exact ⟨rfl, rfl⟩

/-- Guards stay as blind as those that are registered. -/
theorem SameCommand.blind_obey (blind : ∀ guard ∈ machine.guards, guard.IsBlind rules)
    (same : SameCommand rules view command command') :
    ∀ guard ∈ (machine.obey rules command).guards, guard.IsBlind rules := by
  cases same with
  | @give event _ _ =>
    rcases machine.process_cases rules event with ⟨target, _, processed⟩ | ⟨_, processed⟩
    all_goals
      rw [Running.obey, processed]
      exact blind
  | register guard guardBlind =>
    exact List.forall_mem_append.mpr ⟨blind, List.forall_mem_singleton.mpr guardBlind⟩

end Commands

/-- No machine discloses more of an event than its class, the contents of its public fields and the
numbers of bytes in them, as long as its guards look at nothing else: under any rules that show
events so, two runs of commands in which the events resemble each other one by one get the same
responses and go through the same states with the same traces, whether events are accepted, refused
or prevented by a guard. -/
theorem secrets_undisclosed {rules : Rules S K E} {view : E → Event} (shows : rules.Shows view)
    {machine : Running S K E} (blind : ∀ guard ∈ machine.guards, guard.IsBlind rules)
    {commands commands' : List (Command S K E)}
    (same : List.Forall₂ (SameCommand rules view) commands commands') :
    machine.disclosures rules commands = machine.disclosures rules commands' := by
  induction same generalizing machine with
  | nil => rfl
  | cons first rest ih =>
    obtain ⟨responses, machines⟩ := first.response_eq shows blind
    have others := ih (first.blind_obey blind)
    rw [machines] at others
    simp only [Running.disclosures, responses, machines, others]

/-- A door is unlocked with a token, by someone whose key is private. -/
def unlocked (token : List UInt8) (key : String) : Event where
  kind := "Unlocked"
  fields := some [("door", .plain (.text "front")), ("token", .bytes token),
    ("_key", .plain (.text key))]

/-- The commands to a door: it is unlocked twice, the second time against a guard and against the
table after that. -/
def unlockings (token token' : List UInt8) (key : String) : List (Command String String Event) :=
  [.give (unlocked token key), .register (.atMost "once" 1), .give (unlocked token' key),
    .give ⟨"Painted", none⟩]

/-- Tokens of the same lengths and any keys make no difference, and the trace shows the lengths. -/
theorem unlockings_undisclosed :
    let rules := Event.rules [("LOCKED", "Unlocked", "OPEN"), ("OPEN", "Unlocked", "OPEN")]
    let machine : Running String String Event := .first "LOCKED"
    let disclosed := machine.disclosures rules (unlockings [1, 2] [3] "iron")
    disclosed = machine.disclosures rules (unlockings [8, 9] [7] "brass") ∧
      disclosed.map Disclosure.trace = List.replicate 4
        [⟨"LOCKED", "Unlocked", "OPEN", [("door", .text "front"), ("token", .text "<2 bytes>")]⟩] ∧
      disclosed.map (fun disclosure => disclosure.response.bind Response.error) =
        [none, none, some (.guardViolated "once" "Unlocked" "OPEN"),
          some (.eventRefused "OPEN" "Painted")] := by
  intro rules machine disclosed
  have resembles : ∀ {token token' : List UInt8}, token.length = token'.length →
      Resembles rules id (unlocked token "iron") (unlocked token' "brass") := by
    intro token token' lengths
    refine ⟨rfl, .declared (.cons ⟨rfl, fun _ => .plain _⟩ (.cons ⟨rfl, fun _ => .bytes lengths⟩
      (.cons ⟨rfl, ?_⟩ .nil)))⟩
    intro publicly
    cases publicly
  have same : List.Forall₂ (SameCommand rules id) (unlockings [1, 2] [3] "iron")
      (unlockings [8, 9] [7] "brass") :=
    .cons (.give (resembles rfl)) (.cons (.register _ (Guard.isBlind_atMost rules "once" 1))
      (.cons (.give (resembles rfl)) (.cons (.give ⟨rfl, .undeclared⟩) .nil)))
  refine ⟨secrets_undisclosed (Event.shows_rules _) (by simp [machine, Running.first]) same, ?_, ?_⟩
  · rfl
  · rfl

end SignOn.Machine
