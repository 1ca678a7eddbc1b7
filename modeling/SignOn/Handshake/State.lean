/-!
# Handshake states

Where the handshake of a security context stands.
-/

set_option autoImplicit false

namespace SignOn

/-- The stages of a handshake. -/
inductive HandshakeState where
  | notStarted
  | inProgress
  | established
  | failed
  deriving DecidableEq, Repr

namespace HandshakeState

/-- The name of a state in records. -/
def name : HandshakeState → String
  | .notStarted => "NOT_STARTED"
  | .inProgress => "IN_PROGRESS"
  | .established => "ESTABLISHED"
  | .failed => "FAILED"

/-- The name of a state inside a sentence. -/
def phrase : HandshakeState → String
  | .notStarted => "not_started"
  | .inProgress => "in_progress"
  | .established => "established"
  | .failed => "failed"

/-- A terminal state accepts no further event. -/
def isTerminal : HandshakeState → Bool
  | .established | .failed => true
  | .notStarted | .inProgress => false

/-- All states, in the order of a handshake. -/
def all : List HandshakeState := [.notStarted, .inProgress, .established, .failed]

end HandshakeState

end SignOn
