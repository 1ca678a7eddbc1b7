import SignOn.Profile.Native
import SignOn.Realm

/-!
# Realm validators

A validator decides whether a text names an existing realm, by the native configuration or by the
domain name system. The native one is trusted only if it rejects a realm that cannot exist. The
choice is made once and kept, whatever becomes of the world, until it is forgotten.
-/

set_option autoImplicit false

namespace SignOn.Realm

/-- The ways to validate realms. -/
inductive Validator where
  | native (configuration : NativeConfiguration)
  | dns

namespace Validator

/-- A native configuration accepts a realm that it knows servers of. A look-up that the operating
system refuses or that cannot handle the text counts as a rejection. -/
def nativeAccepts (configuration : NativeConfiguration) (realm : String) :
    Action world Bool := do
  match ← (configuration.servers realm).attempt with
  | .ok servers => return !servers.isEmpty
  | .error error =>
    if error.isA .system || error.isA .value then
      Action.log (.nativeLookupFailed realm error.message)
      return false
    else throw error

/-- A validator accepts a realm. -/
def accepts : Validator → String → Action world Bool
  | .native configuration, realm => nativeAccepts configuration realm
  | .dns, realm => Dns.locateRealm (some realm)

/-- What a realm that cannot exist begins with. -/
def impossibleStart : String := "this.might.not.exist."

/-- The native configuration rejects a realm that cannot exist. -/
def passesSelfTest (configuration : NativeConfiguration) (host : String) : Action world Bool := do
  return !(← nativeAccepts configuration (impossibleStart ++ host))

/-- Chooses a validator, given the native configuration if there is one. -/
def select (configuration? : Option NativeConfiguration) (host : String) :
    Action world Validator :=
  match configuration? with
  | none => do
    Action.log (.validatorSelected .dnsWithoutProfile)
    return .dns
  | some configuration => do
    if ← passesSelfTest configuration host then
      Action.log (.validatorSelected (.native configuration.paths))
      return .native configuration
    else
      Action.log (.validatorSelected .dnsForCredulousProfile)
      return .dns

end Validator

/-- The validator chosen, once there is one. -/
abbrev Choice : Type := Option Validator

namespace Choice

/-- The chosen validator; if there is none, one is chosen with the help of a host name. -/
def validator (host : String) : Procedure Choice world Validator := do
  match (← get : Choice) with
  | some chosen => return chosen
  | none =>
    let configuration? ← Procedure.lift (NativeConfiguration.load none .dns)
    let chosen ← Procedure.lift (Validator.select configuration? host)
    set (some chosen : Choice)
    return chosen

/-- Forgets the chosen validator. -/
def forget : Choice := none

end Choice

end SignOn.Realm
