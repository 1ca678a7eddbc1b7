import SignOn.Realm

/-!
# Service principal names

The name under which a database server is registered: `MSSQLSvc/host:port@REALM`, where a named
instance may stand in for the port and the realm may be missing. A host may hold colons, so a text
may be cut in several ways; the cut with the longest host is the one that counts.
-/

set_option autoImplicit false

namespace SignOn

/-- The service part of a database server's name. -/
def databaseService : String := "MSSQLSvc"

/-- A service principal name. -/
structure ServiceName where
  host : String
  portOrInstance : String
  realm : Option Realm := none
  service : String := databaseService
  deriving DecidableEq

namespace ServiceName

/-- The text of a name. -/
def text (name : ServiceName) : String :=
  let plain := name.service ++ "/" ++ name.host ++ ":" ++ name.portOrInstance
  match name.realm with
  | none => plain
  | some realm => plain ++ "@" ++ realm.text

/-- The same name in a realm, on another host if one is given and it is not empty. -/
def withRealm (name : ServiceName) (realm : Realm) (host : Option String) : ServiceName :=
  { name with
    realm := some realm
    host :=
      match host with
      | none | some "" => name.host
      | some other => other }

/-! ## Reading a name -/

/-- A character stands for a letter of the service part in either case; the long s counts as an
s. -/
def foldsTo (letter c : Char) : Bool :=
  c == letter || c == letter.toUpper || (letter == 's' && c == 'ſ')

/-- What follows the service part and its slash, in whatever case the service part is written. -/
def afterService (text : List Char) : Option (List Char) :=
  strip ['m', 's', 's', 'q', 'l', 's', 'v', 'c', '/'] text
where
  /-- Removes the letters from the start of the text. -/
  strip : List Char → List Char → Option (List Char)
    | [], rest => some rest
    | _ :: _, [] => none
    | letter :: letters, c :: rest => if foldsTo letter c then strip letters rest else none

/-- A character that a port or an instance name may hold. -/
def isPortChar (c : Char) : Bool := c != ':' && c != '@'

/-- Cuts what follows the colon into the port and the text of the realm, if there is one. -/
def portAndRealm (text : List Char) : Option (List Char × Option (List Char)) :=
  let port := text.takeWhile isPortChar
  if port.isEmpty then none
  else
    match text.dropWhile isPortChar with
    | [] => some (port, none)
    | '@' :: realm =>
      if realm.isEmpty || realm.contains '\n' then none else some (port, some realm)
    | _ => none

/-- Cuts what follows the service part into host, port and realm, with the longest host
possible. -/
def cut : List Char → Option (List Char × List Char × Option (List Char))
  | [] => none
  | c :: rest =>
    match (if c = '\n' then none else cut rest) with
    | some (host, port, realm) => some (c :: host, port, realm)
    | none => if c = ':' then (portAndRealm rest).map (fun found => ([], found)) else none

/-- Reads a database server's name; any other text is no such name. -/
def parse? (text : String) : Option ServiceName := do
  let rest ← afterService text.toList
  let (host, port, realm) ← cut rest
  return {
    host := String.ofList host
    portOrInstance := String.ofList port
    realm := realm.map (fun name => .ofText (String.ofList name)) }

end ServiceName

end SignOn
