import SignOn.Dialogue
import SignOn.Principal
import SignOn.Session.Peer

/-!
# The library of the security mechanism

What the binding asks of the mechanism's library. Names, credentials and contexts are handles whose
nature is the library's affair.
-/

set_option autoImplicit false

namespace SignOn.Gss

/-- The handles of a library. -/
structure Handles where
  Name : Type
  /-- What a password login returns, before it is made a credential. -/
  Ticket : Type
  Credential : Type
  Context : Type

/-- How a name is to be understood. -/
inductive NameForm where
  | user
  | kerberosPrincipal
  deriving DecidableEq, Repr

/-- The protections requested of a context. -/
structure Flags where
  /-- The peer proves its identity too. -/
  mutualProof : Bool
  /-- The peer may use the credential. -/
  delegate : Bool
  /-- Data cannot be changed on the way. -/
  integrity : Bool
  deriving DecidableEq, Repr

/-- The requests to the library; all credentials and contexts are for initiating. -/
inductive Request (H : Handles) where
  | name (text : String) (form : NameForm)
  /-- A credential for a name, or for the default one, from a store or from the default one. -/
  | credential (name : Option H.Name) (mechanism : Option String) (store : Option CredentialStore)
  /-- A login with a password, which is passed on encoded. -/
  | passwordLogin (name : Option H.Name) (password : String)
  /-- The credential of a password login. -/
  | credentialOf (ticket : H.Ticket)
  /-- The name that a credential is for. -/
  | nameOf (credential : H.Credential)
  | release (credential : H.Credential)
  /-- A context with a peer. -/
  | context (peer : H.Name) (credential : Option H.Credential) (flags : Flags)
      (mechanism : String)
  | step (context : H.Context) (token : Option Token)
  /-- Whether the handshake is complete. -/
  | isComplete (context : H.Context)
  | delete (context : H.Context)
  /-- A text that no one has used before. -/
  | freshText

/-- The type of the reply to a request. -/
abbrev Reply {H : Handles} : Request H → Type
  | .name _ _ => H.Name
  | .credential _ _ _ | .credentialOf _ => H.Credential
  | .passwordLogin _ _ => H.Ticket
  | .nameOf _ => Option String
  | .context _ _ _ _ => H.Context
  | .step _ _ => Option Token
  | .isComplete _ => Bool
  | .release _ | .delete _ => Unit
  | .freshText => String

/-- The library as a collaborator. -/
abbrev library (H : Handles) : Interface := ⟨Request H, Reply⟩

/-- Whether the library is there. -/
inductive Availability where
  /-- It is there; it may or may not know password logins. -/
  | available (passwordLogins : Bool)
  /-- The binding is not installed. -/
  | notInstalled (detail : String)
  /-- The binding is installed, but the library behind it does not load. -/
  | broken (detail : String)
  deriving DecidableEq, Repr

namespace Availability

/-- The library is there. -/
def isAvailable : Availability → Bool
  | .available _ => true
  | .notInstalled _ | .broken _ => false

/-- Why the library is not there. -/
def missing? : Availability → Option String
  | .available _ => none
  | .notInstalled detail | .broken detail => some detail

/-- The library knows password logins. -/
def hasPasswordLogins : Availability → Bool
  | .available passwordLogins => passwordLogins
  | .notInstalled _ | .broken _ => false

/-- What is logged when the library is looked for. -/
def logged : Availability → Option LogEvent
  | .available _ => none
  | .notInstalled _ => some (.mechanism .packageMissing)
  | .broken detail => some (.mechanism (.libraryBroken detail))

end Availability

namespace Flags

/-- The protections that every connection asks for. -/
def default : Flags := ⟨true, true, true⟩

/-- The number that stands for a set of protections. -/
def number (flags : Flags) : Nat :=
  (if flags.delegate then 1 else 0) + (if flags.mutualProof then 2 else 0) +
    (if flags.integrity then 32 else 0)

/-- The names of the protections in a set. -/
def names (flags : Flags) : List String :=
  (if flags.mutualProof then ["MUTUAL"] else []) ++ (if flags.delegate then ["DELEG"] else []) ++
    (if flags.integrity then ["INTEG"] else [])

/-- The set of the protections named. -/
def ofNames (names : List String) : Flags :=
  ⟨names.contains "MUTUAL", names.contains "DELEG", names.contains "INTEG"⟩

/-- A set is given by the names of its protections. -/
theorem ofNames_names (flags : Flags) : ofNames flags.names = flags := by
  rcases flags with ⟨_ | _, _ | _, _ | _⟩ <;> decide

/-- The text of a set of protections. -/
def text (flags : Flags) : String :=
  match flags.names with
  | [] => "ContextFlag(0)"
  | names => "ContextFlag." ++ "|".intercalate names

end Flags

end SignOn.Gss
