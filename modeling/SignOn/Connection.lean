import SignOn.Dialogue
import SignOn.Text.Blank
import SignOn.Text.Case

/-!
# Connections and their settings

A connection that is being established, with its settings. Three of its properties concern
authentication. Keys are compared without regard to case, of equal keys the last one counts, and all
other properties are left to other layers. A property may have any value at all: what is neither
null nor a truth value is taken by its text. Reporting a fatal failure terminates the connection.
-/

set_option autoImplicit false

namespace SignOn

open Text

/-! ## Property values -/

/-- The words for true. -/
def trueWords : List String := ["true", "yes", "1", "on"]

/-- The words for false. -/
def falseWords : List String := ["false", "no", "0", "off"]

/-- The value of a connection property: of a common kind, or an object of any other kind, of which
only its two written forms and whether it is empty can be told. -/
inductive PropertyValue where
  | common (value : Value)
  | object (plain literal : String) (isEmpty : Bool)

namespace PropertyValue

/-- The literal of a value. -/
def literal : PropertyValue → String
  | .common value => value.literal
  | .object _ literal _ => literal

/-- The plain text of a value. -/
def plain : PropertyValue → String
  | .common value => value.plain
  | .object plain _ _ => plain

/-- A value that says nothing. -/
def isEmpty : PropertyValue → Bool
  | .common value => value.isEmpty
  | .object _ _ isEmpty => isEmpty

/-- Reads the value of a boolean property. -/
def parseBoolean (property : String) : PropertyValue → Except Error Bool
  | .common (.bool flag) => .ok flag
  | value =>
    let word := lower (trimText value.plain)
    if trueWords.contains word then .ok true
    else if falseWords.contains word then .ok false
    else .error (.invalidBoolean property value.literal)

end PropertyValue

/-- Reads a boolean property of a common value. -/
def parseBoolean (property : String) (value : Value) : Except Error Bool :=
  PropertyValue.parseBoolean property (.common value)

/-! ## Settings -/

/-- The login configuration used unless a connection names another one. -/
def defaultLogin : String := "KerbAuthDriver"

/-- The authentication settings of one connection. -/
structure Settings where
  /-- The service principal name that the user gave. -/
  serverSpn : Option String := none
  /-- Host names are put into their ASCII-compatible form. -/
  serverNameAsAce : Bool := false
  /-- The login configuration for an explicit login. -/
  login : String := defaultLogin
  deriving DecidableEq

namespace Settings

/-- The value of the last property whose key is the given lower case one. -/
def property? (properties : List (String × PropertyValue)) (key : String) : Option PropertyValue :=
  (properties.reverse.find? (fun entry => lower entry.1 == key)).map (·.2)

/-- A service principal name as given: without surrounding blanks, and none if nothing is left. -/
def serverSpnOf : Option PropertyValue → Option String
  | none | some (.common .null) => none
  | some value =>
    match trimText value.plain with
    | "" => none
    | spn => some spn

/-- Whether host names are encoded; they are not, if nothing is said. -/
def serverNameAsAceOf : Option PropertyValue → Except Error Bool
  | none | some (.common .null) => .ok false
  | some value => value.parseBoolean "serverNameAsACE"

/-- The login configuration named, or the usual one if the value says nothing. -/
def loginOf : Option PropertyValue → String
  | none => defaultLogin
  | some value => if value.isEmpty then defaultLogin else value.plain

/-- Reads the settings from connection properties. -/
def ofProperties (properties : List (String × PropertyValue)) : Except Error Settings := do
  let serverNameAsAce ← serverNameAsAceOf (property? properties "servernameasace")
  return {
    serverSpn := serverSpnOf (property? properties "serverspn")
    serverNameAsAce := serverNameAsAce
    login := loginOf (property? properties "loginconfigurationname") }

/-- What is logged about settings that were read. -/
def logged (settings : Settings) : LogEvent :=
  .settingsLoaded settings.serverSpn settings.serverNameAsAce settings.login

end Settings

/-! ## Connections -/

/-- A connection with settings read from connection properties. -/
structure Connection where
  settings : Settings := {}
  terminated : Bool := false
  deriving DecidableEq

namespace Connection

/-- Reports a fatal failure: the connection is terminated, and the attempt ends with an error. -/
def report {I : Interface} (reason : String) (cause : Option Error) :
    Procedure Connection I Unit := do
  modify fun connection => { connection with terminated := true }
  Procedure.log (.connectionTerminated reason (cause.map Error.message))
  throw (.attemptEnded reason cause)

/-- A connection with settings read from connection properties of common values. -/
def ofProperties {I : Interface} (properties : List (String × Value)) :
    Action I Connection := do
  let values := properties.map fun (key, value) => (key, .common value)
  let settings ← (Settings.ofProperties values : Except Error Settings)
  Action.log settings.logged
  return { settings := settings }

end Connection

end SignOn
