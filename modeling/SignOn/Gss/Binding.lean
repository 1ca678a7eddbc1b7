import SignOn.Gss.Library
import SignOn.Login

/-!
# The binding to the security mechanism

Provides identities, credentials and contexts on top of the mechanism's library. An identity comes
from the current scope or from a login entry: its keytab, its password, or a credential cache. An
identity that lives in no credential store lends its own handle to its credentials; such a
credential does not release the handle, the identity's logout does. Handles are released at most
once: whoever releases one forgets it first.
-/

set_option autoImplicit false

namespace SignOn.Gss

/-- An identity of a binding, by its number. -/
abbrev IdentityRef : Type := Nat

/-- A credential of a binding, by its number. -/
abbrev CredentialRef : Type := Nat

/-- A context of a binding, by its number. -/
abbrev ContextRef : Type := Nat

/-- A credential; once disposed of, it has no handle. -/
structure Credential (H : Handles) where
  handle : Option H.Credential
  ownsHandle : Bool

/-- A context with its peer; once disposed of, it has no handle. -/
structure Context (H : Handles) where
  peerName : String
  handle : Option H.Context
  complete : Bool := false

/-- The state of a binding: what it has handed out, and the identities of the open scopes, the
innermost first. -/
structure Binding (H : Handles) where
  availability : Availability
  registry : Login.Registry := {}
  identities : Array (Identity H.Credential) := #[]
  credentials : Array (Credential H) := #[]
  contexts : Array (Context H) := #[]
  scopes : List IdentityRef := []

namespace Binding

variable {H : Handles} {α : Type}

/-- A procedure of the binding. -/
abbrev Work (H : Handles) (α : Type) : Type := Procedure (Binding H) (library H) α

/-- Asks the library. -/
def ask (request : Request H) : Work H (Reply request) := Procedure.ask (I := library H) request

/-- Logs an event of the binding. -/
def note (event : MechanismEvent) : Work H Unit := Procedure.log (.mechanism event)

/-- Runs a part that uses the library; a failure of the mechanism in it is answered by `onFailure`,
any other error goes on. -/
def onMechanismFailure (onFailure : Error → Work H α) (part : Work H α) : Work H α := do
  match ← part.attempt with
  | .ok value => return value
  | .error error => if error.isA .mechanism then onFailure error else throw error

/-- Stops unless the library is there. -/
def require (need : Need) : Work H Unit := do
  let binding : Binding H ← get
  match binding.availability.missing? with
  | none => return ()
  | some detail => throw (.mechanismMissing need detail)

/-- A list of locations that is not empty. -/
def nonempty? (store : CredentialStore) : Option CredentialStore :=
  if store.isEmpty then none else some store

/-! ## Scopes -/

/-- The identity of the innermost scope. -/
def ambient? (binding : Binding H) : Option IdentityRef := binding.scopes.head?

/-- Opens a scope for an identity. -/
def enter (binding : Binding H) (identity : IdentityRef) : Binding H :=
  { binding with scopes := identity :: binding.scopes }

/-- Closes the innermost scope. -/
def leave (binding : Binding H) : Binding H := { binding with scopes := binding.scopes.tail }

/-- Adds an identity. -/
def addIdentity (identity : Identity H.Credential) : Work H IdentityRef := do
  let binding : Binding H ← get
  set ({ binding with identities := binding.identities.push identity } : Binding H)
  return binding.identities.size

/-- Adds a credential. -/
def addCredential (credential : Credential H) : Work H CredentialRef := do
  let binding : Binding H ← get
  set ({ binding with credentials := binding.credentials.push credential } : Binding H)
  return binding.credentials.size

/-- Adds a context. -/
def addContext (context : Context H) : Work H ContextRef := do
  let binding : Binding H ← get
  set ({ binding with contexts := binding.contexts.push context } : Binding H)
  return binding.contexts.size

/-! ## The registry -/

/-- Registers a login entry. -/
def register (name : String) (entry : Login.Entry) : Work H Unit := do
  modify fun binding => { binding with registry := binding.registry.register name entry }
  Procedure.log (.entryRegistered name)

/-- Removes a login entry. -/
def unregister (name : String) : Work H Unit :=
  modify fun binding => { binding with registry := binding.registry.unregister name }

/-- Looks a login entry up. -/
def lookUp (name : String) : Work H (Option Login.Entry) := do
  let binding : Binding H ← get
  let (entry, registry) := binding.registry.lookUp name
  set ({ binding with registry := registry } : Binding H)
  if binding.registry.installs name then Procedure.log (.defaultEntryInstalled name)
  return entry

/-! ## Logging in and out -/

/-- A text that says something. -/
def saying? : Option String → Option String
  | some "" => none
  | text => text

/-- The credential cache of a login. A login that does not use the ticket cache has a private one in
memory. -/
def cacheOf (entry : Login.Source) : Work H CredentialStore := do
  if entry.useTicketCache then
    match saying? entry.ccache with
    | some cache => return [("ccache", cache)]
    | none => return []
  else
    let text : String ← ask .freshText
    return [("ccache", "MEMORY:kerbauth-" ++ text)]

/-- The principal that a credential is for; a name without a realm is no principal. -/
def principalOf (credential : H.Credential) : Work H (Option Principal) := do
  let known : Option String ← ask (.nameOf credential)
  match known with
  | none => return none
  | some _ =>
    let name : Option String ← ask (.nameOf credential)
    let text := name.getD ""
    if text.toList.contains '@' then return some (← Principal.parse text) else return none

/-- Releases a credential that is of no use; a failure is only noted. -/
def releaseQuietly (credential : H.Credential) : Work H Unit :=
  onMechanismFailure (fun error => note (.releaseFailed error.message)) (do
    let _ : Unit ← ask (.release credential)
    return ())

/-- The credential for a login entry, and the store that it is kept in. -/
def credentialFor (entry : Login.Source) : Work H (H.Credential × CredentialStore) := do
  let name : Option H.Name ←
    match saying? entry.principal with
    | some principal => some <$> ask (.name principal .user)
    | none => pure none
  match saying? entry.keytab, entry.password with
  | some keytab, _ =>
    let store := ("client_keytab", keytab) :: (← cacheOf entry)
    let credential : H.Credential ← ask (.credential name none (some store))
    return (credential, store)
  | none, some password =>
    let binding : Binding H ← get
    if !binding.availability.hasPasswordLogins then throw .passwordUnsupported
    let encoded ← (Login.encode password entry.surrogates : Except Error String)
    let ticket : H.Ticket ← ask (.passwordLogin name encoded)
    let credential : H.Credential ← ask (.credentialOf ticket)
    return (credential, [])
  | none, none =>
    let store ← cacheOf entry
    let credential : H.Credential ← ask (.credential name none (nonempty? store))
    return (credential, store)

/-- The identity that a login entry describes. -/
def identityFor (entry : Login.Source) : Work H (Identity H.Credential) := do
  let (credential, store) ← credentialFor entry
  let principal ← onMechanismFailure
    (fun error => do
      releaseQuietly credential
      throw error)
    (principalOf credential)
  return { principal := principal, store := store, origin := .login, handle := some credential }

/-- Logs in by a registered entry. -/
def login (configuration : String) : Work H IdentityRef := do
  match ← lookUp configuration with
  | none => throw (.unknownLogin configuration)
  | some entry =>
    require .identity
    let identity ← onMechanismFailure
      (fun error => do
        note (.loginFailed configuration error.message error.major error.minor)
        throw (.loginFailed error))
      (identityFor entry.toSource)
    note (.loggedIn configuration identity.principalText)
    addIdentity identity

/-- Logs an identity out. Its handle is released, unless that was done before. -/
def logout (reference : IdentityRef) : Work H Unit := do
  let binding : Binding H ← get
  match binding.identities[reference]? with
  | none => return ()
  | some identity =>
    set ({ binding with
      identities := binding.identities.setIfInBounds reference
        { identity with handle := none, loggedOut := true } } : Binding H)
    match identity.handle with
    | none => return ()
    | some handle =>
      if binding.availability.isAvailable then
        let _ : Unit ← onMechanismFailure (fun error => throw (.logoutFailed error))
          (ask (.release handle))
        note (.loggedOut identity.principalText)

/-! ## Credentials -/

/-- Acquires a credential of an identity for a mechanism. -/
def acquireCredential (reference : IdentityRef) (mechanism : String) :
    Work H CredentialRef := do
  require .context
  let binding : Binding H ← get
  let identity := (binding.identities[reference]?).getD {}
  match identity.handle, identity.store with
  | some handle, [] => addCredential ⟨some handle, false⟩
  | _, _ =>
    let principal := identity.principalText
    let handle ← onMechanismFailure
      (fun error => do
        note (.credentialFailed principal error.message error.major error.minor)
        throw (.credentialFailed error))
      (do
        let name : Option H.Name ←
          match principal with
          | some text => some <$> ask (.name text .kerberosPrincipal)
          | none => pure none
        let handle : H.Credential ←
          ask (.credential name (some mechanism) (nonempty? identity.store))
        return handle)
    note (.credentialAcquired principal)
    addCredential ⟨some handle, true⟩

/-- Disposes of a credential. -/
def disposeCredential (reference : CredentialRef) : Work H Unit := do
  let binding : Binding H ← get
  match binding.credentials[reference]? with
  | none => return ()
  | some credential =>
    set ({ binding with
      credentials := binding.credentials.setIfInBounds reference
        { credential with handle := none } } : Binding H)
    match credential.handle with
    | none => return ()
    | some handle =>
      if credential.ownsHandle then
        let _ : Unit ← onMechanismFailure (fun error => throw (.releaseFailed error))
          (ask (.release handle))
        note .credentialReleased

/-! ## Contexts -/

/-- Creates a context with a peer. Without a credential of this binding the default one is used. -/
def createContext (flags : Flags) (peerName mechanism : String)
    (credential : Option CredentialRef) : Work H ContextRef := do
  require .context
  let binding : Binding H ← get
  let handle? := do
    let held ← binding.credentials[← credential]?
    held.handle
  let handle ← onMechanismFailure
    (fun error => do
      note (.contextFailed peerName error.message error.major error.minor)
      throw (.contextFailed error))
    (do
      let peer : H.Name ← ask (.name peerName .kerberosPrincipal)
      let handle : H.Context ← ask (.context peer handle? flags mechanism)
      return handle)
  note (.contextCreated peerName flags.text)
  addContext { peerName := peerName, handle := some handle }

/-- The token as the library takes it: an empty one is none. -/
def tokenToPass : Option Token → Option Token
  | some [] => none
  | token => token

/-- One handshake step of a context. -/
def step (reference : ContextRef) (token : Option Token) : Work H (Option Token) := do
  let binding : Binding H ← get
  match binding.contexts[reference]? with
  | none => throw .contextDisposed
  | some context =>
    match context.handle with
    | none => throw .contextDisposed
    | some handle =>
      let out : Option Token ← onMechanismFailure
        (fun error => do
          note (.stepFailed context.peerName error.message error.major error.minor)
          throw (.stepFailed error))
        (do
          let out : Option Token ← ask (.step handle (tokenToPass token))
          return out)
      let complete : Bool ← ask (.isComplete handle)
      modify fun binding =>
        { binding with
          contexts := binding.contexts.setIfInBounds reference
            { context with complete := complete } }
      note (.stepped complete out.isSome)
      return out

/-- A context is established when its handshake was complete after the last step. -/
def isEstablished (binding : Binding H) (reference : ContextRef) : Bool :=
  ((binding.contexts[reference]?).map Context.complete).getD false

/-- Disposes of a context. -/
def disposeContext (reference : ContextRef) : Work H Unit := do
  let binding : Binding H ← get
  match binding.contexts[reference]? with
  | none => return ()
  | some context =>
    set ({ binding with
      contexts := binding.contexts.setIfInBounds reference
        { context with handle := none } } : Binding H)
    match context.handle with
    | none => return ()
    | some handle =>
      let _ : Unit ← onMechanismFailure (fun error => throw (.deletionFailed error))
        (ask (.delete handle))
      note (.contextDeleted context.peerName)

/-! ## A binding as the peer of sessions -/

/-- What a binding hands out to sessions. -/
def peers : Peers := ⟨IdentityRef, CredentialRef, ContextRef⟩

/-- Answers a session; what it reports to the connection is answered by `report`. -/
def answer (flags : Flags) (report : String → Error → Work H Unit) :
    (request : Peers.Request peers) → Work H (Peers.Reply request)
  | .ambientIdentity => do
    let binding : Binding H ← get
    return binding.ambient?
  | .login configuration => login configuration
  | .acquireCredential identity mechanism => acquireCredential identity mechanism
  | .createContext peerName mechanism credential =>
    createContext flags peerName mechanism (some credential)
  | .step context token => step context token
  | .isEstablished context => do
    let binding : Binding H ← get
    return binding.isEstablished context
  | .disposeCredential credential => disposeCredential credential
  | .disposeContext context => disposeContext context
  | .logout identity => logout identity
  | .report reason cause => report reason cause

end Binding

end SignOn.Gss
