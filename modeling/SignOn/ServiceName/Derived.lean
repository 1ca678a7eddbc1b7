import SignOn.Dialogue
import SignOn.ServiceName.Basic

/-!
# Names derived for a connection

The service principal name of a connection comes from the host and port, or from the user. When host
names are to be in their ASCII-compatible form, a derived name has its host encoded, and a name that
the user gave has everything after its first slash encoded.
-/

set_option autoImplicit false

namespace SignOn.ServiceName

/-- The ASCII-compatible form of a host name. -/
def encodedHost (host : String) : Except Error String :=
  (Ace.toAscii host).mapError .unencodableHost

/-- The text of the name of a server on a host and port. -/
def textFor (host : String) (port : Int) : String :=
  databaseService ++ "/" ++ host ++ ":" ++ toString port

/-- The text of the name derived from host and port. -/
def derived (host : String) (port : Int) (ace : Bool) : Except Error String := do
  let host ← if ace then encodedHost host else pure host
  return textFor host port

/-- The text before the first slash and the text after it, if there is a slash. -/
def splitService : List Char → Option (List Char × List Char)
  | [] => none
  | c :: rest =>
    if c = '/' then some ([], rest)
    else (splitService rest).map (fun (service, others) => (c :: service, others))

/-- The text of a name that the user gave. -/
def normalized (spn : String) (ace : Bool) : Except Error String :=
  if ace then
    match splitService spn.toList with
    | none => encodedHost spn
    | some (service, rest) => do
      let encoded ← encodedHost (String.ofList rest)
      return String.ofList service ++ "/" ++ encoded
  else .ok spn

variable {I : Interface}

/-- Derives a name and logs it. -/
def derive (host : String) (port : Int) (ace : Bool) : Action I String := do
  Action.log (.spnBuild host port)
  let spn ← derived host port ace
  Action.log (.spnBuilt spn)
  return spn

/-- Takes the user's name; one without a slash is encoded as a whole, which is logged. -/
def normalize (spn : String) (ace : Bool) : Action I String := do
  if ace && (splitService spn.toList).isNone then Action.log (.spnWithoutService spn)
  let text ← normalized spn ace
  return text

end SignOn.ServiceName
