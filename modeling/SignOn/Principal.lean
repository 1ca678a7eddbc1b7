import SignOn.Error
import SignOn.Realm

/-!
# Principals and identities

A principal is a name within a realm, written `name@REALM`. The name may itself hold the separator:
the last one in the text is the one that counts. An identity is whom the library acts for: it is
ambient, bound to the current scope by the application, or comes from an explicit login.
-/

set_option autoImplicit false

namespace SignOn

/-! ## Principals -/

/-- A Kerberos principal; its name is not empty. -/
structure Principal where
  name : String
  realm : Realm
  name_ne : name ≠ ""
  deriving DecidableEq

namespace Principal

/-- Splits a text at its last `@`. -/
def splitAtLast : List Char → Option (List Char × List Char)
  | [] => none
  | c :: rest =>
    match splitAtLast rest with
    | some (before, after) => some (c :: before, after)
    | none => if c = '@' then some ([], rest) else none

/-- Reads a principal from its text. -/
def parse (text : String) : Except Error Principal :=
  match splitAtLast text.toList with
  | none => .error (.principalWithoutRealm text)
  | some (name, realm) =>
    if h : String.ofList name = "" then .error .emptyPrincipalName
    else .ok ⟨String.ofList name, .ofText (String.ofList realm), h⟩

/-- The text of a principal. -/
def text (principal : Principal) : String :=
  principal.name ++ "@" ++ principal.realm.text

end Principal

/-! ## Identities -/

/-- Where an identity comes from. -/
inductive Origin where
  | ambient
  | login
  deriving DecidableEq, Repr

/-- The name of an origin in records. -/
def Origin.name : Origin → String
  | .ambient => "AMBIENT"
  | .login => "LOGIN"

/-- Where credentials are kept: kinds of storage with their locations. -/
abbrev CredentialStore : Type := List (String × String)

/-- An identity; `H` stands for the handles of the security mechanism. -/
structure Identity (H : Type) where
  /-- Without a principal, the default cache decides. -/
  principal : Option Principal := none
  store : CredentialStore := []
  origin : Origin := .ambient
  handle : Option H := none
  loggedOut : Bool := false

/-- The text of an identity's principal. -/
def Identity.principalText {H : Type} (identity : Identity H) : Option String :=
  identity.principal.map Principal.text

end SignOn
