import SignOn.Connection
import SignOn.Dns
import SignOn.Profile.Reader

/-!
# The native configuration

The Kerberos configuration of the host: the profile read from its files, the realms that it
configures, and a way to find the servers of realms that the profile says nothing about. A realm is
configured by a `kdc` relation of its own in the section `realms`, and realms are matched without
regard to case.
-/

set_option autoImplicit false

namespace SignOn

/-! ## Realms in a profile -/

namespace Profile

open Text

/-- The realm whose servers a key of the section `realms` lists. -/
def realmOfKey? (key : String) : Option String :=
  let realm := key.toList.take (key.length - 4)
  if ".kdc".toList.isSuffixOf key.toList && !realm.isEmpty then some (String.ofList realm)
  else none

/-- A list without repetitions; the first occurrence of each item stays. -/
def distinct : List String → List String
  | [] => []
  | item :: rest => item :: (distinct rest).filter (· != item)

/-- The configured realms, in order. -/
def realms (profile : Profile) : List String :=
  distinct ((profile.relations "realms").filterMap (fun entry => realmOfKey? entry.1))

/-- The first value of a key, read as a boolean; any word but the four for true is false. -/
def flag (profile : Profile) (name key : String) (default : Bool) : Bool :=
  match profile.values name key with
  | [] => default
  | value :: _ => trueWords.contains (lower (trimText value))

/-- The configured servers of a realm, if there are any. -/
def configuredServers? (profile : Profile) (realm : String) : Option (List String) :=
  (profile.realms.filter (fun name => upper name == upper realm)).findSome? (fun name =>
    match profile.values "realms" (name ++ ".kdc") with
    | [] => none
    | servers => some servers)

end Profile

/-! ## Loading -/

/-- How the servers of an unconfigured realm are found. -/
inductive Locator where
  /-- In the domain name system. -/
  | dns
  /-- By the application. -/
  | application
  deriving DecidableEq, Repr

/-- A native configuration that was loaded from files. -/
structure NativeConfiguration where
  profile : Profile := {}
  paths : List String := []
  locator : Locator := .dns

namespace NativeConfiguration

/-- The profile files of a host that names none. -/
def defaultPaths : List String := ["/etc/krb5.conf", "/usr/local/etc/krb5.conf"]

/-- The profile files in order of precedence. -/
def pathsOf (setting : Option String) : List String :=
  match setting with
  | none | some "" => defaultPaths
  | some names =>
    ((Text.pieces (· == ':') names.toList).filter (fun path => !path.isEmpty)).map String.ofList

/-- Logs the include directives of a file. -/
def logIncludes {I : Interface} : List String → Action I Unit
  | [] => return ()
  | directive :: rest => do
    Action.log (.includeIgnored directive)
    logIncludes rest

/-- Adds what a file says to a profile; its include directives are logged and go no further. -/
def addText {I : Interface} (profile : Profile) (text : String) : Action I Profile := do
  logIncludes (Profile.includesOf text)
  return profile.read text

/-- Adds a file to a profile; a file that cannot be opened adds nothing, and its path is left
out. -/
def addFile (profile : Profile) (path : String) : Action world (Option Profile) := do
  match ← (World.file path).attempt with
  | .error error =>
    if error.isA .system then
      Action.log (.profileUnreadable path error.message)
      return none
    else throw error
  | .ok bytes =>
    match String.fromUTF8? ⟨bytes.toArray⟩ with
    | none => throw (.undecodableFile path)
    | some text => some <$> addText profile text

/-- Adds files to a profile in order; also returns the paths that could be read. -/
def addFiles (profile : Profile) : List String → Action world (Profile × List String)
  | [] => return (profile, [])
  | path :: rest => do
    match ← addFile profile path with
    | none => addFiles profile rest
    | some extended => do
      let (final, loaded) ← addFiles extended rest
      return (final, path :: loaded)

/-- Loads the native configuration from files; there is none, if no file can be read. Without a list
of paths the world is asked for it. -/
def load (paths : Option (List String)) (locator : Locator) :
    Action world (Option NativeConfiguration) := do
  let wanted ←
    match paths with
    | some given => pure given
    | none => pathsOf <$> World.profileVariable
  let (profile, loaded) ← addFiles {} wanted
  if loaded.isEmpty then return none
  else
    Action.log (.profileLoaded loaded)
    return some ⟨profile, loaded, locator⟩

/-- The servers that a locator finds for a realm. -/
def locate (locator : Locator) (realm : String) : Action world (List (String × Int)) :=
  match locator with
  | .dns => Dns.discoverServers realm
  | .application => World.kdcServers realm

/-- The servers of a realm: the configured ones, or else those that the locator finds, unless the
profile forbids looking for them. -/
def servers (configuration : NativeConfiguration) (realm : String) :
    Action world (List String) :=
  match configuration.profile.configuredServers? realm with
  | some servers => return servers
  | none =>
    if configuration.profile.flag "libdefaults" "dns_lookup_kdc" true then do
      let found ← locate configuration.locator realm
      return found.map (fun (host, port) => host ++ ":" ++ toString port)
    else return []

end NativeConfiguration

end SignOn
