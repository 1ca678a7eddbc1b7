import SignOn.Text.Blank
import SignOn.Text.Case
import SignOn.World

/-!
# The domain name system

Realms publish their key distribution centers as service records, and hosts have canonical names:
the name of the first address that a host has. Failing queries for service records count as empty
answers and are logged.
-/

set_option autoImplicit false

namespace SignOn.Dns

open Text

/-! ## Servers of a realm -/

/-- The name under which a realm publishes its servers for a protocol. -/
def serviceName (protocol realm : String) : String :=
  "_kerberos." ++ protocol ++ "." ++ lower realm

/-- The records of a query; none, if the query fails. -/
def recordsOf (name : String) : Action world (List ServiceRecord) := do
  match ← (World.serviceRecords name).attempt with
  | .ok records => return records
  | .error error =>
    if error.isA .dns then
      Action.log (.serviceLookupFailed name error.message)
      return []
    else throw error

/-- A record is to be tried no later than another: it has a lower priority number, or the same one
and at least the same weight. -/
def triedFirst (first second : ServiceRecord) : Bool :=
  decide (first.priority < second.priority) ||
    (first.priority == second.priority && decide (second.weight ≤ first.weight))

/-- A server's host name and port. -/
def serverOf (record : ServiceRecord) : String × Int :=
  (String.ofList (dropEndWhile (· == '.') record.target.toList), record.port)

/-- The servers that a realm publishes, in the order in which they are to be tried. -/
def discoverServers (realm : String) : Action world (List (String × Int)) := do
  let overTcp ← recordsOf (serviceName "_tcp" realm)
  let overUdp ← recordsOf (serviceName "_udp" realm)
  return ((overTcp ++ overUdp).mergeSort triedFirst).map serverOf

/-- A realm without one leading point. -/
def withoutLeadingPoint (realm : String) : String :=
  match realm.toList with
  | '.' :: rest => String.ofList rest
  | _ => realm

/-- A realm exists if it publishes a server. One of fewer than two characters is not asked for. -/
def locateRealm (realm : Option String) : Action world Bool :=
  match realm with
  | none => return false
  | some text => do
    let name := withoutLeadingPoint text
    if name.length < 2 then return false
    else
      let servers ← discoverServers name
      let found := !servers.isEmpty
      Action.log (.dnsRealmLookup name found)
      return found

/-! ## Canonical host names -/

/-- The canonical name of a host: the name of its first address, or the text of that address if it
has no name. -/
def canonicalName (host : String) : Action world String := do
  match ← (World.addresses host).attempt with
  | .error error =>
    if error.isA .addressLookup || error.isA .unicode then throw (.lookupFailed host error)
    else throw error
  | .ok [] => throw (.noAddress host)
  | .ok (address :: _) =>
    match ← (World.hostName address).attempt with
    | .error error =>
      if error.isA .system then
        Action.log (.reverseLookupFailed address error.message)
        return address
      else throw error
    | .ok name =>
      Action.log (.hostCanonicalized host name)
      return name

end SignOn.Dns
