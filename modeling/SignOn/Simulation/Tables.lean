import SignOn.Enrichment

/-!
# Collaborators given by tables

A world whose files, variables and name services are tables, and collaborators of enrichment that
know a fixed set of realms and a table of canonical names. A look-up outside a table fails the way
the real service would. These are for examples and for trying the library out.
-/

set_option autoImplicit false

namespace SignOn.Simulation

/-- A table; of two entries for a key the later one counts. -/
abbrev Table (α : Type) : Type := List (String × α)

namespace Table

variable {α : Type}

/-- The entry of a key. -/
def find? (table : Table α) (key : String) : Option α :=
  (table.reverse.find? (fun entry => entry.1 == key)).map (·.2)

/-- The table with an entry set, or removed. -/
def set (table : Table α) (key : String) (item : Option α) : Table α :=
  table.filter (fun entry => entry.1 != key) ++ (item.map (fun item => (key, item))).toList

/-- The table of a mapping that is set up pair by pair: a key stays where it was first set and has
the item set last. -/
def ofPairs (pairs : List (String × α)) : Table α :=
  pairs.foldl (fun table (key, item) =>
    if table.any (fun entry => entry.1 == key) then
      table.map (fun entry => if entry.1 == key then (key, item) else entry)
    else table ++ [(key, item)]) []

end Table

/-- A world given by tables. -/
structure World where
  profileVariable : Option String := none
  files : Table (List UInt8) := []
  services : Table (Except Error (List ServiceRecord)) := []
  addresses : Table (Except Error (List String)) := []
  hostNames : Table (Except Error String) := []
  /-- The application's locator; the key `*` stands for all other realms. -/
  servers : Table (Except Error (List (String × Int))) := []

/-- An error of a kind in a collaborator's words. -/
def failure (kind : ErrorKind) (message : String) : Error :=
  .reported { kind := kind, message := message }

/-- The answer of a world to a request. -/
def World.reply (tables : World) :
    (request : SignOn.World.Request) → Except Error (SignOn.World.Reply request)
  | .profileVariable => .ok tables.profileVariable
  | .file path =>
    match tables.files.find? path with
    | some bytes => .ok bytes
    | none => .error (failure .system ("cannot open " ++ path))
  | .serviceRecords name =>
    (tables.services.find? name).getD (.error (failure .dns "no such name"))
  | .addresses host =>
    (tables.addresses.find? host).getD (.error (failure .addressLookup "unknown host"))
  | .hostName address =>
    (tables.hostNames.find? address).getD (.error (failure .nameLookup "no reverse record"))
  | .kdcServers realm =>
    ((tables.servers.find? realm).orElse (fun _ => tables.servers.find? "*")).getD (.ok [])

/-- Collaborators of enrichment. -/
structure Enricher where
  /-- The realms that exist, in any case. -/
  realms : List String := []
  /-- The canonical names of hosts. -/
  canonical : Table (Except Error String) := []

/-- A candidate names an existing realm. -/
def Enricher.knows (enricher : Enricher) (candidate : String) : Bool :=
  (enricher.realms.map Text.upper).contains (Text.upper candidate)

/-- The answer of collaborators to enrichment. -/
def Enricher.reply (enricher : Enricher) :
    (request : Enrichment.Request Unit) → Except Error (Enrichment.Reply request)
  | .probe _ => .ok ()
  | .validate _ candidate => .ok (enricher.knows candidate)
  | .canonicalize host =>
    (enricher.canonical.find? host).getD (.error (.reported (.hostResolution host none)))

end SignOn.Simulation
