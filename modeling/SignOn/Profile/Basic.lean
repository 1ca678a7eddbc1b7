/-!
# Profiles

A profile is what Kerberos configuration files say, flattened: sections, in each section keys, and
for every key its values, everything in order of first appearance. The keys of relations inside
subsections are dotted paths.
-/

set_option autoImplicit false

namespace SignOn

/-- The keys of a section with their values. -/
abbrev Relations : Type := List (String × List String)

namespace Relations

/-- The values of a key. -/
def values (relations : Relations) (key : String) : List String :=
  ((relations.find? (fun entry => entry.1 == key)).map (·.2)).getD []

/-- A key is present. -/
def has (relations : Relations) (key : String) : Bool :=
  relations.any (fun entry => entry.1 == key)

/-- Adds a value behind the others of its key; a new key comes last. -/
def add (key value : String) : Relations → Relations
  | [] => [(key, [value])]
  | entry :: rest =>
    if entry.1 == key then (entry.1, entry.2 ++ [value]) :: rest else entry :: add key value rest

end Relations

/-- A flattened profile. -/
structure Profile where
  sections : List (String × Relations) := []
  deriving DecidableEq

namespace Profile

/-- The relations of a section. -/
def relations (profile : Profile) (name : String) : Relations :=
  ((profile.sections.find? (fun entry => entry.1 == name)).map (·.2)).getD []

/-- The values of a key in a section. -/
def values (profile : Profile) (name key : String) : List String :=
  (profile.relations name).values key

/-- A section has a key. -/
def has (profile : Profile) (name key : String) : Bool := (profile.relations name).has key

/-- Changes the relations of a section; a new section comes last. -/
def updateIn (name : String) (change : Relations → Relations) :
    List (String × Relations) → List (String × Relations)
  | [] => [(name, change [])]
  | entry :: rest =>
    if entry.1 == name then (entry.1, change entry.2) :: rest
    else entry :: updateIn name change rest

/-- Makes a section present. -/
def openSection (profile : Profile) (name : String) : Profile := ⟨updateIn name id profile.sections⟩

/-- Adds a value to a key of a section. -/
def add (profile : Profile) (name key value : String) : Profile :=
  ⟨updateIn name (Relations.add key value) profile.sections⟩

end Profile

end SignOn
