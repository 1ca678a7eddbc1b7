import SignOn.Handshake.State
import SignOn.Machine.Guards

/-!
# The handshake machine

Tracks the handshake of one security context. The context is created once, tokens are exchanged,
and the handshake ends established or failed; both ends are terminal.
-/

set_option autoImplicit false

namespace SignOn.Handshake

open Machine

/-- The classes of handshake events; any other class has a name, but no transition. -/
inductive Kind where
  | contextCreated
  | tokenExchanged
  | contextEstablished
  | negotiationFailed
  | other (name : String)
  deriving DecidableEq

/-- The name of a class of events. -/
def Kind.name : Kind → String
  | .contextCreated => "ContextCreated"
  | .tokenExchanged => "TokenExchanged"
  | .contextEstablished => "ContextEstablished"
  | .negotiationFailed => "NegotiationFailed"
  | .other name => name

/-- The class of a name. -/
def Kind.ofName (name : String) : Kind :=
  ([.contextCreated, .tokenExchanged, .contextEstablished, .negotiationFailed].find?
    (fun kind : Kind => kind.name == name)).getD (.other name)

/-- The events of a handshake. Of tokens only the lengths are kept. -/
inductive Event where
  | contextCreated (peerName : String)
  | tokenExchanged (inLength : Int) (outLength : Option Int)
  | contextEstablished (inLength : Int) (outLength : Option Int)
  | negotiationFailed (reason : String)
  | other (name : String)
  deriving DecidableEq

/-- The class of an event. -/
def Event.kind : Event → Kind
  | .contextCreated _ => .contextCreated
  | .tokenExchanged _ _ => .tokenExchanged
  | .contextEstablished _ _ => .contextEstablished
  | .negotiationFailed _ => .negotiationFailed
  | .other name => .other name

/-- What records show of an event. -/
def Event.details : Event → List (String × Value)
  | .contextCreated peerName => [("peer_name", .text peerName)]
  | .tokenExchanged inLength outLength | .contextEstablished inLength outLength =>
    [("in_length", .integer inLength), ("out_length", .ofInteger? outLength)]
  | .negotiationFailed reason => [("reason", .text reason)]
  | .other name => [("type", .text name)]

/-- The lengths in the details of a token exchange, in either order. -/
def lengthsIn? : List (String × Value) → Option (Int × Option Int)
  | [("in_length", .integer inLength), ("out_length", out)]
  | [("out_length", out), ("in_length", .integer inLength)] =>
    match out with
    | .integer outLength => some (inLength, some outLength)
    | .null => some (inLength, none)
    | _ => none
  | _ => none

/-- The event of a class with the given details, if there is one. -/
def Event.ofDetails? (kind : Kind) (details : List (String × Value)) : Option Event :=
  match kind, details with
  | .contextCreated, [("peer_name", .text peerName)] => some (.contextCreated peerName)
  | .tokenExchanged, lengths =>
    (lengthsIn? lengths).map (fun (inLength, outLength) => .tokenExchanged inLength outLength)
  | .contextEstablished, lengths =>
    (lengthsIn? lengths).map (fun (inLength, outLength) => .contextEstablished inLength outLength)
  | .negotiationFailed, [("reason", .text reason)] => some (.negotiationFailed reason)
  | .other name, _ => some (.other name)
  | _, _ => none

/-- An event can be read back from its class and its details. -/
theorem Event.ofDetails?_details (event : Event) :
    Event.ofDetails? event.kind event.details = some event := by
  cases event with
  | contextCreated peerName => rfl
  | tokenExchanged inLength outLength => cases outLength <;> rfl
  | contextEstablished inLength outLength => cases outLength <;> rfl
  | negotiationFailed reason => rfl
  | other name => rfl

/-- The table of a handshake. -/
def next : HandshakeState → Kind → Option HandshakeState
  | .notStarted, .contextCreated => some .inProgress
  | .notStarted, .negotiationFailed => some .failed
  | .inProgress, .tokenExchanged => some .inProgress
  | .inProgress, .contextEstablished => some .established
  | .inProgress, .negotiationFailed => some .failed
  | _, _ => none

/-- The rules of the handshake machine. -/
def rules : Rules HandshakeState Kind Event where
  next := next
  kind := Event.kind
  stateName := HandshakeState.name
  kindName := Kind.name
  details := Event.details

/-- The history of a handshake. -/
abbrev History : Type := List (Transition HandshakeState Kind)

/-- The number of token exchanges in a history. -/
def rounds (history : History) : Nat :=
  (history.filter (fun transition =>
    transition.kind == .tokenExchanged || transition.kind == .contextEstablished)).length

/-- A context is created before any token is exchanged. -/
def createdOnce : Guard HandshakeState Kind Event where
  name := "context_created_once"
  allows state history _ event :=
    event.kind != .contextCreated || (rounds history == 0 && state == .notStarted)

/-- A handshake machine in operation. -/
abbrev Tracker : Type := Running HandshakeState Kind Event

/-- A handshake machine at a state, with a history; the guard on context creation comes first. -/
def tracker (state : HandshakeState) (history : History) : Tracker where
  state := state
  history := history
  guards := [createdOnce]

/-- A handshake machine before its first event. -/
def fresh : Tracker := tracker .notStarted []

end SignOn.Handshake
