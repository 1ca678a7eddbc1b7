import SignOn.Value

/-!
# Log events

What this library reports while it works. Each event is a value that says what happened; its level,
its name and its details in a log record are read off it in one place. No event carries the bytes
of a token.
-/

set_option autoImplicit false

namespace SignOn

/-- How much attention a log event asks for. -/
inductive LogLevel where
  | debug
  | info
  | warning
  | error
  deriving DecidableEq, Repr

/-- The name of a level in records. -/
def LogLevel.name : LogLevel → String
  | .debug => "debug"
  | .info => "info"
  | .warning => "warning"
  | .error => "error"

/-- Why realms are validated the way they are. -/
inductive ValidatorChoice where
  /-- By the profile read from these files. -/
  | native (paths : List String)
  /-- By the domain name system, as there is no profile. -/
  | dnsWithoutProfile
  /-- By the domain name system, as the profile accepts a realm that cannot exist. -/
  | dnsForCredulousProfile
  deriving DecidableEq

/-- What is released at the end of a session. -/
inductive Resource where
  | credential
  | securityContext
  | identity
  deriving DecidableEq, Repr

/-- The name of a resource in records. -/
def Resource.name : Resource → String
  | .credential => "credential"
  | .securityContext => "security_context"
  | .identity => "identity"

/-- The events of one authentication session. -/
inductive SessionEvent where
  | spnEnriched (spn enriched : String)
  | loginStart (configuration : String)
  | acquiringCredential
  | creatingContext (spn : String)
  | initializationFailed (error : String)
  | sendingToken (inLength : Nat)
  | stepFailed (error : String)
  | established (rounds : Nat)
  | noToken
  | releaseFailed (resource : Resource) (error : String)
  deriving DecidableEq

/-- The events of the binding to the security mechanism. -/
inductive MechanismEvent where
  | packageMissing
  | libraryBroken (message : String)
  | credentialReleased
  | loginFailed (configuration error : String) (major minor : Option Int)
  | loggedIn (configuration : String) (principal : Option String)
  | loggedOut (principal : Option String)
  | credentialFailed (principal : Option String) (error : String) (major minor : Option Int)
  | credentialAcquired (principal : Option String)
  | releaseFailed (error : String)
  | stepFailed (target error : String) (major minor : Option Int)
  | stepped (complete hasOutput : Bool)
  | contextDeleted (target : String)
  | contextFailed (target error : String) (major minor : Option Int)
  | contextCreated (target flags : String)
  deriving DecidableEq

/-- The events that are logged. -/
inductive LogEvent where
  | spnBuild (host : String) (port : Int)
  | spnBuilt (spn : String)
  | spnWithoutService (spn : String)
  | settingsLoaded (serverSpn : Option String) (serverNameAsAce : Bool) (login : String)
  | entryRegistered (name : String)
  | defaultEntryInstalled (name : String)
  | connectionTerminated (reason : String) (cause : Option String)
  | realmCandidate (candidate : String)
  | canonicalizationFailed (host error : String)
  | realmNotFound (spn : String)
  | includeIgnored (line : String)
  | profileUnreadable (path error : String)
  | profileLoaded (paths : List String)
  | nativeLookupFailed (realm error : String)
  | validatorSelected (choice : ValidatorChoice)
  | serviceLookupFailed (name error : String)
  | dnsRealmLookup (realm : String) (found : Bool)
  | reverseLookupFailed (address error : String)
  | hostCanonicalized (name canonical : String)
  | invalidTransition (state event : String)
  | invariantViolated (guard source target : String)
  | stateTransition (source target event : String)
  | session (host : String) (port : Int) (event : SessionEvent)
  | mechanism (event : MechanismEvent)
  deriving DecidableEq

/-- A log record: its level, the name of its event and the event's details. -/
structure LogRecord where
  level : LogLevel
  event : String
  details : List (String × Value)

/-- A record with its level and the name of its event in front of the details. -/
def LogRecord.entries (record : LogRecord) : List (String × Value) :=
  ("level", .text record.level.name) :: ("event", .text record.event) :: record.details

/-- The record of a session's event, less the host and port of the session. -/
def SessionEvent.record : SessionEvent → LogRecord
  | .spnEnriched spn enriched =>
    ⟨.debug, "spn_enriched", [("spn", .text spn), ("enriched", .text enriched)]⟩
  | .loginStart configuration => ⟨.debug, "login_start", [("config", .text configuration)]⟩
  | .acquiringCredential => ⟨.debug, "getting_client_credentials", []⟩
  | .creatingContext spn => ⟨.debug, "creating_security_context", [("spn", .text spn)]⟩
  | .initializationFailed error => ⟨.debug, "auth_init_failed", [("error", .text error)]⟩
  | .sendingToken inLength => ⟨.debug, "sending_token", [("in_length", .integer inLength)]⟩
  | .stepFailed error => ⟨.debug, "security_context_step_failed", [("error", .text error)]⟩
  | .established rounds => ⟨.debug, "authentication_done", [("rounds", .integer rounds)]⟩
  | .noToken => ⟨.info, "null_token_before_establishment", []⟩
  | .releaseFailed resource error =>
    ⟨.warning, "release_failed", [("resource", .text resource.name), ("error", .text error)]⟩

/-- The details of an error with its status codes. -/
def errorDetails (error : String) (major minor : Option Int) : List (String × Value) :=
  [("error", .text error), ("major", .ofInteger? major), ("minor", .ofInteger? minor)]

/-- The record of an event of the binding. -/
def MechanismEvent.record : MechanismEvent → LogRecord
  | .packageMissing =>
    ⟨.debug, "gssapi_not_available",
      [("message", .text "Install gssapi package for native Kerberos support")]⟩
  | .libraryBroken message => ⟨.warning, "gssapi_library_error", [("message", .text message)]⟩
  | .credentialReleased => ⟨.debug, "gssapi_creds_released", []⟩
  | .loginFailed configuration error major minor =>
    ⟨.error, "gssapi_login_failed",
      ("config", .text configuration) :: errorDetails error major minor⟩
  | .loggedIn configuration principal =>
    ⟨.info, "gssapi_login",
      [("config", .text configuration), ("principal", .ofText? principal)]⟩
  | .loggedOut principal => ⟨.debug, "gssapi_logout", [("principal", .ofText? principal)]⟩
  | .credentialFailed principal error major minor =>
    ⟨.error, "gssapi_creds_failed",
      ("principal", .ofText? principal) :: errorDetails error major minor⟩
  | .credentialAcquired principal =>
    ⟨.debug, "gssapi_creds_acquired", [("principal", .ofText? principal)]⟩
  | .releaseFailed error =>
    ⟨.warning, "release_failed",
      [("resource", .text Resource.credential.name), ("error", .text error)]⟩
  | .stepFailed target error major minor =>
    ⟨.error, "gssapi_step_failed", ("target", .text target) :: errorDetails error major minor⟩
  | .stepped complete hasOutput =>
    ⟨.debug, "gssapi_client_step",
      [("complete", .bool complete), ("has_output", .bool hasOutput)]⟩
  | .contextDeleted target => ⟨.debug, "gssapi_context_deleted", [("target", .text target)]⟩
  | .contextFailed target error major minor =>
    ⟨.error, "gssapi_context_failed", ("target", .text target) :: errorDetails error major minor⟩
  | .contextCreated target flags =>
    ⟨.debug, "gssapi_client_context_created",
      [("target", .text target), ("flags", .text flags)]⟩

/-- The record of a validator's selection. -/
def ValidatorChoice.record : ValidatorChoice → LogRecord
  | .native paths =>
    ⟨.info, "realm_validator_selected",
      [("validator", .text "native"), ("paths", .list (paths.map .text))]⟩
  | .dnsWithoutProfile =>
    ⟨.info, "realm_validator_selected",
      [("validator", .text "dns"), ("reason", .text "no native Kerberos configuration")]⟩
  | .dnsForCredulousProfile =>
    ⟨.info, "realm_validator_selected",
      [("validator", .text "dns"),
        ("reason", .text "native resolver accepts nonexistent realms")]⟩

/-- The record of an event. -/
def LogEvent.record : LogEvent → LogRecord
  | .spnBuild host port =>
    ⟨.debug, "spn_build", [("server", .text host), ("port", .integer port)]⟩
  | .spnBuilt spn => ⟨.debug, "spn_built", [("spn", .text spn)]⟩
  | .spnWithoutService spn => ⟨.debug, "spn_without_service_part", [("spn", .text spn)]⟩
  | .settingsLoaded serverSpn serverNameAsAce login =>
    ⟨.debug, "auth_config_loaded",
      [("server_spn", .ofText? serverSpn), ("server_name_as_ace", .bool serverNameAsAce),
        ("login_configuration", .text login)]⟩
  | .entryRegistered name => ⟨.debug, "login_entry_registered", [("name", .text name)]⟩
  | .defaultEntryInstalled name =>
    ⟨.debug, "login_entry_default_installed", [("name", .text name)]⟩
  | .connectionTerminated reason cause =>
    ⟨.error, "connection_terminated", [("reason", .text reason), ("cause", .ofText? cause)]⟩
  | .realmCandidate candidate => ⟨.debug, "realm_candidate", [("candidate", .text candidate)]⟩
  | .canonicalizationFailed host error =>
    ⟨.debug, "spn_canonicalization_failed", [("host", .text host), ("error", .text error)]⟩
  | .realmNotFound spn => ⟨.debug, "spn_realm_not_found", [("spn", .text spn)]⟩
  | .includeIgnored line => ⟨.debug, "krb5_conf_include_ignored", [("line", .text line)]⟩
  | .profileUnreadable path error =>
    ⟨.debug, "krb5_conf_unreadable", [("path", .text path), ("error", .text error)]⟩
  | .profileLoaded paths =>
    ⟨.debug, "krb5_conf_loaded", [("paths", .list (paths.map .text))]⟩
  | .nativeLookupFailed realm error =>
    ⟨.debug, "native_realm_lookup_failed", [("realm", .text realm), ("error", .text error)]⟩
  | .validatorSelected choice => choice.record
  | .serviceLookupFailed name error =>
    ⟨.debug, "dns_srv_lookup_failed", [("name", .text name), ("error", .text error)]⟩
  | .dnsRealmLookup realm found =>
    ⟨.debug, "dns_realm_lookup", [("realm", .text realm), ("found", .bool found)]⟩
  | .reverseLookupFailed address error =>
    ⟨.debug, "reverse_lookup_failed", [("address", .text address), ("error", .text error)]⟩
  | .hostCanonicalized name canonical =>
    ⟨.debug, "host_canonicalized", [("name", .text name), ("canonical", .text canonical)]⟩
  | .invalidTransition state event =>
    ⟨.warning, "invalid_transition",
      [("current_state", .text state), ("event_type", .text event)]⟩
  | .invariantViolated guard source target =>
    ⟨.error, "invariant_violated",
      [("invariant", .text guard), ("from_state", .text source), ("to_state", .text target)]⟩
  | .stateTransition source target event =>
    ⟨.debug, "state_transition",
      [("from_state", .text source), ("to_state", .text target), ("event_type", .text event)]⟩
  | .session host port event =>
    let record := event.record
    { record with details := ("host", .text host) :: ("port", .integer port) :: record.details }
  | .mechanism event => event.record

end SignOn
