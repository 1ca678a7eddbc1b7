import SignOn.Connection

/-!
# Login entries and their registry

How to obtain an identity by an explicit login: from a keytab, with a password, or from a credential
cache, in this order. Login entries are registered by name; the entry of the usual name is installed
when it is looked up and nothing is registered under that name.
-/

set_option autoImplicit false

namespace SignOn.Login

/-! ## Passwords -/

/-- A surrogate among the code points of a text, and the characters behind it, as far as the next
surrogate. It is no character itself and has no encoding, whatever stands beside it. -/
structure Surrogate where
  code : Nat
  isSurrogate : 0xD800 ≤ code ∧ code ≤ 0xDFFF
  following : String := ""
  deriving DecidableEq

/-- How many surrogates stand next to each other at the beginning. -/
def Surrogate.inRow : List Surrogate → Nat
  | [] => 0
  | surrogate :: rest => if surrogate.following.isEmpty then inRow rest + 1 else 1

/-- The text that is passed on, encoded, for a password: its characters as far as its first
surrogate, and its surrogates. With surrogates it has no encoding; the error names the first of
them, its position among the code points, and how many stand there in a row. -/
def encode (password : String) (surrogates : List Surrogate) : Except Error String :=
  match surrogates with
  | [] => .ok password
  | first :: _ =>
    .error (.unencodablePassword first.code password.length (Surrogate.inRow surrogates))

/-- A password has an encoding exactly if there is no surrogate in it. -/
theorem encode_eq_ok_iff {password encoded : String} {surrogates : List Surrogate} :
    encode password surrogates = .ok encoded ↔ surrogates = [] ∧ encoded = password := by
  cases surrogates with
  | nil => simp [encode, eq_comm]
  | cons first rest => simp [encode]

/-! ## Entries -/

/-- What an entry says, before it is checked. -/
structure Source where
  /-- The principal to log in as; without one, the cache decides. -/
  principal : Option String := none
  /-- The characters of the password, as far as its first surrogate. -/
  password : Option String := none
  /-- The surrogates in the password, if any. -/
  surrogates : List Surrogate := []
  /-- The credential cache; without one, the default cache. -/
  ccache : Option String := none
  keytab : Option String := none
  /-- Tickets are read from the credential cache and stored in it. -/
  useTicketCache : Bool := true
  deriving DecidableEq

/-- A password comes with a principal. -/
def Source.NamesPrincipal (source : Source) : Prop :=
  source.password.isSome → source.principal.isSome

/-- An identity can come from somewhere. -/
def Source.HasOrigin (source : Source) : Prop :=
  source.keytab.isSome ∨ source.password.isSome ∨ source.useTicketCache = true

/-- A valid login entry. -/
structure Entry extends Source where
  namesPrincipal : toSource.NamesPrincipal
  hasOrigin : toSource.HasOrigin

namespace Entry

/-- Checks an entry. -/
def ofSource (source : Source) : Except Error Entry :=
  if names : source.password.isSome = true ∧ source.principal.isNone = true then
    .error .passwordWithoutPrincipal
  else if origin : source.keytab.isSome = true ∨ source.password.isSome = true ∨
      source.useTicketCache = true then
    .ok {
      toSource := source
      namesPrincipal := by
        intro password
        cases h : source.principal with
        | none => exact absurd ⟨password, by rw [h]; rfl⟩ names
        | some _ => rfl
      hasOrigin := origin }
  else .error .noIdentitySource

/-- The entry that takes its identity from the default credential cache. -/
def ticketCache : Entry where
  toSource := {}
  namesPrincipal := by intro password; cases password
  hasOrigin := .inr (.inr rfl)

end Entry

/-! ## The registry -/

/-- Login entries by name, each name once, the latest first. -/
structure Registry where
  entries : List (String × Entry) := []

namespace Registry

/-- The entry stored under a name. -/
def stored? (registry : Registry) (name : String) : Option Entry :=
  (registry.entries.find? (fun entry => entry.1 == name)).map (·.2)

/-- The registry without a name. -/
def unregister (registry : Registry) (name : String) : Registry :=
  ⟨registry.entries.filter (fun entry => entry.1 != name)⟩

/-- The registry with an entry stored under a name. -/
def register (registry : Registry) (name : String) (entry : Entry) : Registry :=
  ⟨(name, entry) :: (registry.unregister name).entries⟩

/-- The names in use. -/
def names (registry : Registry) : List String := registry.entries.map (·.1)

/-- A look-up of the name installs the default entry. -/
def installs (registry : Registry) (name : String) : Bool :=
  name == defaultLogin && (registry.stored? name).isNone

/-- The entry under a name, and the registry after the look-up. -/
def lookUp (registry : Registry) (name : String) : Option Entry × Registry :=
  if registry.installs name then
    (some .ticketCache, registry.register name .ticketCache)
  else (registry.stored? name, registry)

end Registry

end SignOn.Login
