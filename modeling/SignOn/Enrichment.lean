import SignOn.Realm.Validator
import SignOn.ServiceName.Basic

/-!
# Enrichment of service principal names

A name without a realm is completed with the realm that is found for its host. If the host itself
yields none and its canonical name may be used, that name is searched too, and a realm found this
way comes with the canonical name as host.
-/

set_option autoImplicit false

namespace SignOn.Enrichment

/-- The requests that enrichment makes; `V` stands for the validators that a probe returns. -/
inductive Request (V : Type) where
  /-- A validator, chosen with the help of a host name. -/
  | probe (host : String)
  /-- Whether a validator accepts a candidate. -/
  | validate (validator : V) (candidate : String)
  /-- The canonical name of a host. -/
  | canonicalize (host : String)

/-- The type of the reply to a request. -/
abbrev Reply {V : Type} : Request V → Type
  | .probe _ => V
  | .validate _ _ => Bool
  | .canonicalize _ => String

/-- The collaborators of enrichment. -/
abbrev collaborators (V : Type) : Interface := ⟨Request V, Reply⟩

variable {V : Type}

/-- Asks for a validator. -/
def probe (host : String) : Action (collaborators V) V :=
  Action.ask (I := collaborators V) (.probe host)

/-- Asks a validator about a candidate. -/
def validate (validator : V) (candidate : String) : Action (collaborators V) Bool :=
  Action.ask (I := collaborators V) (.validate validator candidate)

/-- Asks for the canonical name of a host. -/
def canonicalize (host : String) : Action (collaborators V) String :=
  Action.ask (I := collaborators V) (.canonicalize host)

/-- The realm of a host and the host name that goes with it. An unresolved host is logged and has no
realm. -/
def realmOfHost (host : String) (allowCanonical : Bool) :
    Action (collaborators V) (Option Realm × String) := do
  let validator ← probe host
  match ← Realm.find (validate validator) (some host) with
  | some realm => return (some realm, host)
  | none =>
    if allowCanonical then
      match ← (canonicalize host).attempt with
      | .ok canonical => return (← Realm.find (validate validator) (some canonical), canonical)
      | .error error =>
        if error.isA .hostResolution then
          Action.log (.canonicalizationFailed host error.message)
          return (none, host)
        else throw error
    else return (none, host)

/-- Completes a service principal name with its realm. A text that is no such name, a name that has
a realm and a name without a realm to be found stay as they are. -/
def enrich (spn : String) (allowCanonical : Bool) : Action (collaborators V) String :=
  match ServiceName.parse? spn with
  | none => return spn
  | some name =>
    if name.realm.isSome then return spn
    else do
      match ← realmOfHost name.host allowCanonical with
      | (some realm, host) => return (name.withRealm realm (some host)).text
      | (none, _) =>
        Action.log (.realmNotFound spn)
        return spn

/-- Completes a name, if there is one. -/
def enrich? (spn : Option String) (allowCanonical : Bool) :
    Action (collaborators V) (Option String) :=
  match spn with
  | none => return none
  | some text => some <$> enrich text allowCanonical

/-- Answers the requests of enrichment from the world, with the chosen validator. -/
def fromWorld : (request : Request Realm.Validator) →
    Procedure Realm.Choice world (Reply request)
  | .probe host => Realm.Choice.validator host
  | .validate validator candidate => Procedure.lift (validator.accepts candidate)
  | .canonicalize host => Procedure.lift (Dns.canonicalName host)

end SignOn.Enrichment
