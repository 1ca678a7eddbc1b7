import SignOn.Enrichment
import SignOn.Handshake.Machine
import SignOn.ServiceName.Derived
import SignOn.Session.Peer
import SignOn.Connection

/-!
# Authentication sessions

A session authenticates one connection. Opening it only settles the service principal name. The
first handshake round obtains an identity, a credential and a security context, and every round
passes one token on. Releasing gives everything back; an ambient identity belongs to the
application and is left alone. Fatal errors are reported to the connection, and no round returns
after one.
-/

set_option autoImplicit false

namespace SignOn

/-- The session of one connection. -/
structure Session (P : Peers) where
  host : String
  port : Int
  settings : Settings
  /-- The service principal name of the server. -/
  spn : String
  identity : Option P.Identity := none
  /-- The session logged in explicitly. -/
  loggedIn : Bool := false
  credential : Option P.Credential := none
  context : Option P.Context := none
  released : Bool := false
  handshake : Handshake.Tracker := Handshake.fresh

namespace Session

/-! ## Opening -/

/-- Opens a session: settles the name of the server. A name that the user gave keeps its host. -/
def start {P : Peers} {V : Type} (settings : Settings) (host : String) (port : Int) :
    Action (Enrichment.collaborators V) (Session P) := do
  let spn ←
    match settings.serverSpn with
    | some given => ServiceName.normalize given settings.serverNameAsAce
    | none => ServiceName.derive host port settings.serverNameAsAce
  let enriched ← Enrichment.enrich spn settings.serverSpn.isNone
  if enriched != spn then Action.log (.session host port (.spnEnriched spn enriched))
  return { host := host, port := port, settings := settings, spn := enriched }

variable {P : Peers}

/-- The session has an established context. -/
def isEstablished (session : Session P) : Bool := session.handshake.state == .established

/-- The number of token exchanges so far. -/
def rounds (session : Session P) : Nat := Handshake.rounds session.handshake.history

/-! ## Handshake rounds -/

/-- A procedure that works on a session. -/
abbrev Work (P : Peers) (α : Type) : Type := Procedure (Session P) P.collaborators α

/-- Asks a peer. -/
def ask (request : Peers.Request P) : Work P (Peers.Reply request) :=
  Procedure.ask (I := P.collaborators) request

/-- Logs an event of the session. -/
def note (event : SessionEvent) : Work P Unit := do
  let session : Session P ← get
  Procedure.log (.session session.host session.port event)

/-- Gives an event to the handshake machine; an objecting guard is an error. -/
def give (event : Handshake.Event) : Work P (Machine.Verdict HandshakeState) := do
  let session : Session P ← get
  let tracker := session.handshake
  let (verdict, after) := tracker.process Handshake.rules event
  Procedure.log (tracker.logged Handshake.rules event)
  set { session with handshake := after }
  match verdict with
  | .violated guard _ =>
    throw (.guardViolated guard event.kind.name tracker.state.name)
  | _ => return verdict

/-- Ends the attempt: the handshake fails, unless it is over, and the connection is told. Should the
connection not raise an error, the session does. -/
def fail {α : Type} (error : Error) : Work P α := do
  let session : Session P ← get
  if !session.handshake.state.isTerminal then
    let _ ← give (.negotiationFailed error.message)
  ask (.report integratedAuthenticationFailed error)
  throw (.attemptEnded integratedAuthenticationFailed (some error))

/-- Gives an event that the handshake is expected to accept. -/
def advance (event : Handshake.Event) : Work P Unit := do
  let session : Session P ← get
  match ← give event with
  | .refused => fail (.eventRefused session.handshake.state.name event.kind.name)
  | _ => return ()

/-- Runs a part of a round; an authentication error in it is noted and ends the attempt. -/
def guarded {α : Type} (noted : String → SessionEvent) (part : Work P α) : Work P α := do
  match ← part.attempt with
  | .ok value => return value
  | .error error =>
    if error.isA .authentication then
      note (noted error.message)
      fail error
    else throw error

/-- Obtains an identity: the ambient one, or one from an explicit login. -/
def obtainIdentity : Work P P.Identity := do
  let session : Session P ← get
  let ambient : Option P.Identity ← ask .ambientIdentity
  match ambient with
  | some identity => return identity
  | none =>
    note (.loginStart session.settings.login)
    let identity : P.Identity ← ask (.login session.settings.login)
    modify fun session => { session with loggedIn := true }
    return identity

/-- Obtains identity, credential and context, and keeps each as soon as it is there. -/
def obtainContext : Work P P.Context := do
  let identity ← obtainIdentity
  modify fun session => { session with identity := some identity }
  note .acquiringCredential
  let credential : P.Credential ← ask (.acquireCredential identity kerberosMechanism)
  modify fun session => { session with credential := some credential }
  let session : Session P ← get
  note (.creatingContext session.spn)
  let context : P.Context ← ask (.createContext session.spn kerberosMechanism credential)
  modify fun session => { session with context := some context }
  return context

/-- Sets up the context before the first round. -/
def setUp : Work P P.Context := do
  let context ← guarded .initializationFailed obtainContext
  let session : Session P ← get
  advance (.contextCreated session.spn)
  return context

/-- The number of bytes of a token; no token counts as an empty one. -/
def tokenLength (token : Option Token) : Nat := (token.getD []).length

/-- One round with a context: the token to send and whether the context is established. -/
def round (context : P.Context) (token : Option Token) : Work P (Option Token × Bool) := do
  note (.sendingToken (tokenLength token))
  let out : Option Token ← guarded .stepFailed (ask (.step context token))
  let inLength : Int := tokenLength token
  let outLength : Option Int := out.map (fun bytes => Int.ofNat bytes.length)
  let established : Bool ← ask (.isEstablished context)
  if established then
    advance (.contextEstablished inLength outLength)
    let session : Session P ← get
    note (.established session.rounds)
    return (out, true)
  else if out.isNone then
    note .noToken
    fail .noToken
  else
    advance (.tokenExchanged inLength outLength)
    return (out, false)

/-- One handshake round: takes the server's token and gives the token to send, and whether the
context is established. -/
def generate (token : Option Token) : Work P (Option Token × Bool) := do
  let session : Session P ← get
  if session.released then fail .sessionReleased
  else if session.handshake.state.isTerminal then
    fail (.handshakeOver session.handshake.state)
  else
    let context ←
      match session.context with
      | some context => pure context
      | none => setUp
    round context token

/-! ## Release -/

/-- Releases one thing; an error is noted and goes no further. -/
def releaseOne (resource : Resource) (request : Peers.Request P) : Work P Unit := do
  match ← (ask request).attempt with
  | .ok _ => return ()
  | .error error => note (.releaseFailed resource error.message)

/-- The session once it holds nothing any more. -/
def emptied (session : Session P) : Session P :=
  { session with
    identity := none
    loggedIn := false
    credential := none
    context := none
    released := true }

/-- Gives everything back: the credential, the context, and an identity that the session logged in
itself, in this order and whatever fails. Nothing is given back twice. -/
def release : Work P Unit := do
  let session : Session P ← get
  set session.emptied
  if let some credential := session.credential then
    releaseOne .credential (.disposeCredential credential)
  if let some context := session.context then
    releaseOne .securityContext (.disposeContext context)
  if let some identity := session.identity then
    if session.loggedIn then releaseOne .identity (.logout identity)

/-- Runs a part and gives everything back at the end, also when the part raises an error. -/
def scope {α : Type} (part : Work P α) : Work P α := do
  let outcome ← part.attempt
  release
  match outcome with
  | .ok value => return value
  | .error error => throw error

end Session

end SignOn
