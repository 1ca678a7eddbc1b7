import SignOn.Dialogue

/-!
# The peers of a session

An authentication session works with a provider of identities and credentials, with the security
contexts of a mechanism, and with the connection that is being established. This module lists what a
session asks of them. What identities, credentials and contexts are is the peers' affair.
-/

set_option autoImplicit false

namespace SignOn

/-- The bytes of a token. -/
abbrev Token : Type := List UInt8

/-- The Kerberos mechanism. -/
def kerberosMechanism : String := "1.2.840.113554.1.2.2"

/-- What the peers of a session hand out. -/
structure Peers where
  Identity : Type
  Credential : Type
  Context : Type

namespace Peers

/-- The requests of a session. -/
inductive Request (P : Peers) where
  /-- The identity bound to the current scope, if there is one. -/
  | ambientIdentity
  /-- An explicit login. -/
  | login (configuration : String)
  /-- A credential of an identity for a mechanism. -/
  | acquireCredential (identity : P.Identity) (mechanism : String)
  /-- A security context with a named peer. -/
  | createContext (peerName mechanism : String) (credential : P.Credential)
  /-- One step of the handshake: takes the peer's token and gives the token to send. -/
  | step (context : P.Context) (token : Option Token)
  /-- Whether the context is established. -/
  | isEstablished (context : P.Context)
  /-- The end of a credential. -/
  | disposeCredential (credential : P.Credential)
  /-- The end of a context. -/
  | disposeContext (context : P.Context)
  /-- The end of a login. -/
  | logout (identity : P.Identity)
  /-- A fatal failure, for the connection to raise; a reply means that it did not. -/
  | report (reason : String) (cause : Error)

/-- The type of the reply to a request. -/
abbrev Reply {P : Peers} : Request P → Type
  | .ambientIdentity => Option P.Identity
  | .login _ => P.Identity
  | .acquireCredential _ _ => P.Credential
  | .createContext _ _ _ => P.Context
  | .step _ _ => Option Token
  | .isEstablished _ => Bool
  | .disposeCredential _ | .disposeContext _ | .logout _ | .report _ _ => Unit

/-- The peers as collaborators. -/
abbrev collaborators (P : Peers) : Interface := ⟨Request P, Reply⟩

end Peers

end SignOn
