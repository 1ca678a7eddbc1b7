import SignOn.Dialogue

/-!
# The world around the library

What the library asks of the host that it runs on: a variable, files, and the name services.
-/

set_option autoImplicit false

namespace SignOn

/-- A record of the domain name system that names a server for a service. -/
structure ServiceRecord where
  target : String
  port : Int
  priority : Int
  weight : Int
  deriving DecidableEq

namespace World

/-- The requests to the world. -/
inductive Request where
  /-- The variable that names the profile files. -/
  | profileVariable
  | file (path : String)
  /-- The service records of a name. -/
  | serviceRecords (name : String)
  | addresses (host : String)
  /-- The name of an address. -/
  | hostName (address : String)
  /-- The servers of a realm, from a locator that the application supplies. -/
  | kdcServers (realm : String)
  deriving DecidableEq

/-- The type of the reply to a request. -/
abbrev Reply : Request → Type
  | .profileVariable => Option String
  | .file _ => List UInt8
  | .serviceRecords _ => List ServiceRecord
  | .addresses _ => List String
  | .hostName _ => String
  | .kdcServers _ => List (String × Int)

end World

/-- The world as a collaborator. -/
abbrev world : Interface := ⟨World.Request, World.Reply⟩

namespace World

/-- Asks for the variable that names the profile files. -/
def profileVariable : Action world (Option String) := Action.ask (I := world) .profileVariable

/-- Reads the bytes of a file. -/
def file (path : String) : Action world (List UInt8) := Action.ask (I := world) (.file path)

/-- Asks for the service records of a name. -/
def serviceRecords (name : String) : Action world (List ServiceRecord) :=
  Action.ask (I := world) (.serviceRecords name)

/-- Asks for the addresses of a host. -/
def addresses (host : String) : Action world (List String) :=
  Action.ask (I := world) (.addresses host)

/-- Asks for the name of the host at an address. -/
def hostName (address : String) : Action world String :=
  Action.ask (I := world) (.hostName address)

/-- Asks the application's locator for the servers of a realm. -/
def kdcServers (realm : String) : Action world (List (String × Int)) :=
  Action.ask (I := world) (.kdcServers realm)

end World

end SignOn
