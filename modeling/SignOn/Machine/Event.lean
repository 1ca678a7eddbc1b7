import SignOn.Value

/-!
# Transitions, events and their records

A machine moves along a table of transitions, state and event class to next state. An event belongs
to a class and may have fields. The record of a transition shows the public fields of its event
only, and of a field that holds bytes it shows no more than their number.
-/

set_option autoImplicit false

namespace SignOn.Machine

/-! ## Rules and transitions -/

/-- What a machine is made of: the table, and how states and events are shown. -/
structure Rules (S K E : Type) where
  /-- The next state for a state and the class of an event. -/
  next : S → K → Option S
  /-- The class of an event. -/
  kind : E → K
  /-- The name of a state. -/
  stateName : S → String
  /-- The name of a class of events. -/
  kindName : K → String
  /-- What records show of an event. -/
  details : E → List (String × Value)

/-- The next state that a list of transitions gives; of two entries for one state and class the
later one counts. -/
def nextIn {S K : Type} [BEq S] [BEq K] (table : List (S × K × S)) (state : S) (kind : K) :
    Option S :=
  (table.reverse.find? (fun entry => entry.1 == state && entry.2.1 == kind)).map (·.2.2)

/-- An accepted event. -/
structure Transition (S K : Type) where
  source : S
  kind : K
  target : S
  details : List (String × Value)

variable {S K E : Type}

/-- Entries of which the later ones replace earlier ones of the same name. -/
def overlaid (entries later : List (String × Value)) : List (String × Value) :=
  entries.filter (fun entry => !later.any (fun other => other.1 == entry.1)) ++ later

/-- The record of a transition; the event's details go before the usual entries. -/
def Transition.record (rules : Rules S K E) (transition : Transition S K) :
    List (String × Value) :=
  overlaid
    [("from_state", .text (rules.stateName transition.source)),
      ("to_state", .text (rules.stateName transition.target)),
      ("event_type", .text (rules.kindName transition.kind))]
    transition.details

/-! ## Events -/

/-- The content of a field. -/
inductive Field where
  /-- An ordinary value. -/
  | plain (value : Value)
  /-- A sequence of bytes. -/
  | bytes (content : List UInt8)
  /-- A member of an enumeration. -/
  | member (name : String)

/-- What a record shows of a field. -/
def Field.shown : Field → Value
  | .plain value => value
  | .bytes content => .text ("<" ++ toString content.length ++ " bytes>")
  | .member name => .text name

/-- An event of a class; a class may declare no fields at all. -/
structure Event where
  kind : String
  fields : Option (List (String × Field))

/-- A field is private when its name begins with an underscore. -/
def isPrivate (field : String) : Bool := field.toList.head? == some '_'

/-- The details that a record shows of an event: its public fields, or its class if the class
declares no fields. -/
def Event.details (event : Event) : List (String × Value) :=
  match event.fields with
  | none => [("type", .text event.kind)]
  | some fields =>
    (fields.filter (fun field => !isPrivate field.1)).map (fun field => (field.1, field.2.shown))

/-- The rules of a machine whose states are names and whose table lists, for a state and a class of
events, the next state. -/
def Event.rules (table : List (String × String × String)) : Rules String String Event where
  next := nextIn table
  kind := Event.kind
  stateName := id
  kindName := id
  details := Event.details

end SignOn.Machine
