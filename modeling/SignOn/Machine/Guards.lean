import SignOn.Error
import SignOn.Log
import SignOn.Machine.Event

/-!
# Guarded machines

A machine in operation keeps every accepted event in its history. Guards may be registered at any
time and are asked before a transition is made; the first one that objects is named. Three guards
can be given to machines of any kind: a state that is never entered, a class of events that is never
accepted, and a bound on the number of transitions.
-/

set_option autoImplicit false

namespace SignOn.Machine

variable {S K E : Type}

/-! ## Machines in operation -/

/-- A condition on transitions. It is given the current state, the history, the next state and the
event. -/
structure Guard (S K E : Type) where
  name : String
  allows : S → List (Transition S K) → S → E → Bool

/-- A machine in operation; the history begins with the oldest transition. -/
structure Running (S K E : Type) where
  state : S
  history : List (Transition S K) := []
  guards : List (Guard S K E) := []

/-- The answer to an event. -/
inductive Verdict (S : Type) where
  /-- The machine moved to a state. -/
  | accepted (target : S)
  /-- The current state does not accept events of this class. -/
  | refused
  /-- The first objecting guard prevented a move. -/
  | violated (guard : String) (target : S)

/-- The first guard that objects to a move. -/
def Running.objection? (machine : Running S K E) (target : S) (event : E) :
    Option (Guard S K E) :=
  machine.guards.find? (fun guard => !guard.allows machine.state machine.history target event)

/-- How a machine answers an event. -/
def Running.judge (rules : Rules S K E) (machine : Running S K E) (event : E) : Verdict S :=
  match rules.next machine.state (rules.kind event) with
  | none => .refused
  | some target =>
    match machine.objection? target event with
    | some guard => .violated guard.name target
    | none => .accepted target

/-- Gives an event to a machine. Only an accepted event changes it. -/
def Running.process (rules : Rules S K E) (machine : Running S K E) (event : E) :
    Verdict S × Running S K E :=
  match machine.judge rules event with
  | .accepted target =>
    (.accepted target,
      { machine with
        state := target
        history := machine.history ++
          [⟨machine.state, rules.kind event, target, rules.details event⟩] })
  | verdict => (verdict, machine)

/-- What is logged about an event that the machine was given. -/
def Running.logged (rules : Rules S K E) (machine : Running S K E) (event : E) : LogEvent :=
  let source := rules.stateName machine.state
  let kind := rules.kindName (rules.kind event)
  match machine.judge rules event with
  | .accepted target => .stateTransition source (rules.stateName target) kind
  | .refused => .invalidTransition source kind
  | .violated guard target => .invariantViolated guard source (rules.stateName target)

/-- The error behind an event that was not accepted. -/
def Running.error? (rules : Rules S K E) (machine : Running S K E) (event : E) : Option Error :=
  let source := rules.stateName machine.state
  let kind := rules.kindName (rules.kind event)
  match machine.judge rules event with
  | .accepted _ => none
  | .refused => some (.eventRefused source kind)
  | .violated guard _ => some (.guardViolated guard kind source)

/-- Registers a guard behind the others. -/
def Running.addGuard (machine : Running S K E) (guard : Guard S K E) : Running S K E :=
  { machine with guards := machine.guards ++ [guard] }

/-! ## Ready-made guards -/

namespace Guard

/-- The machine does not enter the state of the given name. -/
def neverEnters (rules : Rules S K E) (name state : String) : Guard S K E where
  name := name
  allows _ _ target _ := rules.stateName target != state

/-- The machine does not accept events of the class of the given name. -/
def neverAccepts (rules : Rules S K E) (name kind : String) : Guard S K E where
  name := name
  allows _ _ _ event := rules.kindName (rules.kind event) != kind

/-- The machine makes no more than the given number of transitions. -/
def atMost (name : String) (limit : Int) : Guard S K E where
  name := name
  allows _ history _ _ := decide (Int.ofNat history.length < limit)

end Guard

end SignOn.Machine
