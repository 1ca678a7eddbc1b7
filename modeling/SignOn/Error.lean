import SignOn.Ace.HostName
import SignOn.Handshake.State
import SignOn.Value

/-!
# Errors

Every way in which an operation can fail, named for its cause; the wording of all of them is in
`Error.message`. An error has a kind, and the kinds form a hierarchy by which errors are caught.
Errors that collaborators raise keep the wording that the collaborator gave them.
-/

set_option autoImplicit false

namespace SignOn

/-- The kinds of errors. -/
inductive ErrorKind where
  /-- The root of this library's own kinds. -/
  | signOn
  | authentication
  | identityAcquisition
  | contextNegotiation
  /-- The connection attempt was ended by an authentication failure. -/
  | integratedAuthentication
  | resolution
  | hostResolution
  | disposal
  | state
  | configuration
  | value
  /-- A text cannot be encoded or decoded. -/
  | unicode
  | system
  | addressLookup
  | nameLookup
  | dns
  | mechanism
  /-- A list has no such item. -/
  | index
  /-- Any other failure of a collaborator. -/
  | runtime
  deriving DecidableEq, Repr

/-- A kind and the kinds that include it, the nearest first. -/
def ErrorKind.lineage : ErrorKind → List ErrorKind
  | .signOn => [.signOn]
  | .authentication => [.authentication, .signOn]
  | .identityAcquisition => [.identityAcquisition, .authentication, .signOn]
  | .contextNegotiation => [.contextNegotiation, .authentication, .signOn]
  | .integratedAuthentication => [.integratedAuthentication, .authentication, .signOn]
  | .resolution => [.resolution, .signOn]
  | .hostResolution => [.hostResolution, .resolution, .signOn]
  | .disposal => [.disposal, .signOn]
  | .state => [.state, .signOn]
  | .configuration => [.configuration, .signOn]
  | .unicode => [.unicode, .value]
  | .addressLookup => [.addressLookup, .system]
  | .nameLookup => [.nameLookup, .system]
  | kind => [kind]

/-- A kind is included in another one. -/
def ErrorKind.isA (kind other : ErrorKind) : Bool := kind.lineage.contains other

/-- The text shown to a user whose connection attempt failed. -/
def integratedAuthenticationFailed : String := "Integrated authentication failed."

/-- An error in a collaborator's own words, with the codes it carries. -/
structure Report where
  kind : ErrorKind
  message : String
  code : Option Int := none
  major : Option Int := none
  minor : Option Int := none
  host : String := ""
  deriving DecidableEq

/-- The end of a connection attempt; without a message of its own it has the usual text. -/
def Report.integratedAuthentication (message : Option String) : Report where
  kind := .integratedAuthentication
  message :=
    match message with
    | none | some "" => integratedAuthenticationFailed
    | some text => text

/-- An unresolved host; without a message of its own it names the host. -/
def Report.hostResolution (host : String) (message : Option String) : Report where
  kind := .hostResolution
  message :=
    match message with
    | none | some "" => "Cannot resolve host " ++ host
    | some text => text
  host := host

/-- What a missing security mechanism was needed for. -/
inductive Need where
  | identity
  | context
  deriving DecidableEq, Repr

/-- The causes of failure. -/
inductive Error where
  /-- A collaborator raised an error of its own. -/
  | reported (report : Report)
  | principalWithoutRealm (text : String)
  | emptyPrincipalName
  /-- A host name has no ASCII-compatible form. -/
  | unencodableHost (reason : Ace.NameError)
  | undecodableFile (path : String)
  /-- The value of a boolean property, of which the literal is given, is no truth value. -/
  | invalidBoolean (property literal : String)
  /-- A login entry has a password, but no principal. -/
  | passwordWithoutPrincipal
  /-- A login entry names nothing to take an identity from. -/
  | noIdentitySource
  /-- A password holds surrogates: the code and the position of the first of them, and how many
  stand there in a row. -/
  | unencodablePassword (code position count : Nat)
  | sessionReleased
  /-- The handshake is over. -/
  | handshakeOver (state : HandshakeState)
  /-- A state does not accept an event. -/
  | eventRefused (state event : String)
  | guardViolated (guard event state : String)
  /-- The context gave no token although it was not established. -/
  | noToken
  | contextDisposed
  /-- The security mechanism is not there. -/
  | mechanismMissing (need : Need) (detail : String)
  | unknownLogin (name : String)
  /-- The mechanism cannot log in with a password. -/
  | passwordUnsupported
  | loginFailed (cause : Error)
  | credentialFailed (cause : Error)
  | contextFailed (cause : Error)
  | stepFailed (cause : Error)
  | releaseFailed (cause : Error)
  | logoutFailed (cause : Error)
  | deletionFailed (cause : Error)
  | lookupFailed (host : String) (cause : Error)
  | noAddress (host : String)
  /-- The connection attempt ended. -/
  | attemptEnded (reason : String) (cause : Option Error)

namespace Error

/-- The kind of an error. -/
def kind : Error → ErrorKind
  | .reported report => report.kind
  | .principalWithoutRealm _ | .emptyPrincipalName => .value
  | .unencodableHost _ | .undecodableFile _ | .unencodablePassword _ _ _ => .unicode
  | .invalidBoolean _ _ | .passwordWithoutPrincipal | .noIdentitySource => .configuration
  | .sessionReleased | .handshakeOver _ | .eventRefused _ _ | .guardViolated _ _ _ => .state
  | .noToken | .contextDisposed | .mechanismMissing .context _ => .contextNegotiation
  | .credentialFailed _ | .contextFailed _ | .stepFailed _ => .contextNegotiation
  | .mechanismMissing .identity _ | .unknownLogin _ => .identityAcquisition
  | .passwordUnsupported | .loginFailed _ => .identityAcquisition
  | .releaseFailed _ | .logoutFailed _ | .deletionFailed _ => .disposal
  | .lookupFailed _ _ => .hostResolution
  | .noAddress _ => .index
  | .attemptEnded _ _ => .integratedAuthentication

/-- An error is of a kind, or of a kind that this one includes. -/
def isA (error : Error) (kind : ErrorKind) : Bool := error.kind.isA kind

/-- The wording of an error. -/
def message : Error → String
  | .reported report => report.message
  | .principalWithoutRealm text => "Invalid principal format: " ++ text
  | .emptyPrincipalName => "Length of 'name' must be >= 1: 0"
  | .unencodableHost reason => reason.message
  | .undecodableFile path => "Cannot decode " ++ path
  | .invalidBoolean property literal =>
    "Invalid boolean value for " ++ property ++ ": " ++ literal
  | .passwordWithoutPrincipal => "Password login requires a principal"
  | .noIdentitySource =>
    "Login entry has no identity source: set keytab, password or use_ticket_cache"
  | .unencodablePassword code position count =>
    "'utf-8' codec can't encode character" ++
      (if count = 1 then
        " '\\u" ++ String.ofList (Text.hexPadded 4 code) ++ "' in position " ++ toString position
      else "s in position " ++ toString position ++ "-" ++ toString (position + count - 1)) ++
      ": surrogates not allowed"
  | .sessionReleased => "Authentication context already released"
  | .handshakeOver state => "Handshake already " ++ state.phrase
  | .eventRefused state event => state ++ " does not accept " ++ event
  | .guardViolated guard event state =>
    "Invariant '" ++ guard ++ "' violated by " ++ event ++ " in " ++ state
  | .noToken => "Security context produced no token before establishment"
  | .contextDisposed => "Security context already disposed"
  | .mechanismMissing _ detail =>
    "GSSAPI library not available (" ++ detail ++
      "). Install with: pip install mssql-kerbauth[gssapi]"
  | .unknownLogin name => "No login configuration named " ++ name
  | .passwordUnsupported =>
    "GSSAPI password acquisition not available. Use kinit to obtain credentials first."
  | .loginFailed cause => "Kerberos login failed: " ++ cause.message
  | .credentialFailed cause => "Cannot acquire credentials: " ++ cause.message
  | .contextFailed cause => "Cannot create security context: " ++ cause.message
  | .stepFailed cause => "GSSAPI error: " ++ cause.message
  | .releaseFailed cause => "Cannot release credentials: " ++ cause.message
  | .logoutFailed cause => "Logout failed: " ++ cause.message
  | .deletionFailed cause => "Cannot delete security context: " ++ cause.message
  | .lookupFailed host cause => "Cannot resolve host " ++ host ++ ": " ++ cause.message
  | .noAddress _ => "list index out of range"
  | .attemptEnded reason _ => if reason.isEmpty then integratedAuthenticationFailed else reason

/-- The error that gave rise to this one. -/
def cause? : Error → Option Error
  | .loginFailed cause | .credentialFailed cause | .contextFailed cause | .stepFailed cause
  | .releaseFailed cause | .logoutFailed cause | .deletionFailed cause
  | .lookupFailed _ cause => some cause
  | .attemptEnded _ cause => cause
  | _ => none

/-- The code that an error of this library carries. -/
def code : Error → Option Int
  | .reported report => report.code
  | _ => none

/-- The major status code of the security mechanism. -/
def major : Error → Option Int
  | .reported report => report.major
  | .credentialFailed cause | .contextFailed cause | .stepFailed cause => cause.major
  | _ => none

/-- The minor status code of the security mechanism. -/
def minor : Error → Option Int
  | .reported report => report.minor
  | .credentialFailed cause | .contextFailed cause | .stepFailed cause => cause.minor
  | _ => none

/-- The host that could not be resolved. -/
def host : Error → String
  | .reported report => report.host
  | .lookupFailed host _ => host
  | _ => ""

end Error

end SignOn
