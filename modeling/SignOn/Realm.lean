import SignOn.Dialogue
import SignOn.Text.Case

/-!
# Realms

A realm is an administrative domain of Kerberos. Its name is in upper case, and a realm made from
any text takes the upper case form of that text.

The realm of a host is searched for in the host name. The candidates are the host name itself and
then, again and again, what follows the next point of the last candidate, where the next point is
looked for from the second character on: a point at the very beginning of a candidate is passed
over. So what follows a leading point is no candidate, and neither is what follows the second of two
points in a row. A candidate has three characters at least. The search asks a validator about one
candidate after the other and stops at the first that is accepted.
-/

set_option autoImplicit false

namespace SignOn

open Text

/-- A Kerberos realm. -/
structure Realm where
  name : String
  upper_name : upper name = name
  deriving DecidableEq

namespace Realm

/-- The realm that a text names, in whatever case. -/
def ofText (text : String) : Realm := ⟨upper text, upper_upper text⟩

/-- The text of a realm is its name. -/
def text (realm : Realm) : String := realm.name

/-- The name of a realm is in upper case, whatever the text that names it. -/
@[simp] theorem name_ofText (text : String) : (ofText text).name = upper text := rfl

/-- A realm is determined by its name. -/
@[ext] theorem ext {first second : Realm} (h : first.name = second.name) : first = second := by
  cases first
  cases second
  cases h
  rfl

/-- The realm that a realm's own name names is that realm. -/
@[simp] theorem ofText_name (realm : Realm) : ofText realm.name = realm :=
  ext realm.upper_name

/-! ## Searching a host name for a realm -/

/-- What follows the next point of a text, looked for from its second character on. -/
def afterNextPoint : List Char → Option (List Char)
  | [] => none
  | _ :: rest => afterPoint rest
where
  /-- What follows the first point of a text. -/
  afterPoint : List Char → Option (List Char)
    | [] => none
    | c :: rest => if c = '.' then some rest else afterPoint rest

/-- What follows a point is shorter than the text. -/
theorem length_afterPoint {text rest : List Char}
    (h : afterNextPoint.afterPoint text = some rest) : rest.length < text.length := by
  induction text with
  | nil => simp [afterNextPoint.afterPoint] at h
  | cons c others ih =>
    simp only [afterNextPoint.afterPoint] at h
    split at h
    · cases h
      exact Nat.lt_succ_self _
    · exact Nat.lt_succ_of_lt (ih h)

/-- What follows the next point is shorter than the text. -/
theorem length_afterNextPoint {text rest : List Char} (h : afterNextPoint text = some rest) :
    rest.length < text.length := by
  cases text with
  | nil => simp [afterNextPoint] at h
  | cons c others => exact Nat.lt_succ_of_lt (length_afterPoint h)

/-- The candidates in a host name, in the order in which they are asked about. -/
def candidates (host : List Char) : List (List Char) :=
  if host.length < 3 then []
  else
    match found : afterNextPoint host with
    | none => [host]
    | some rest =>
      have : rest.length < host.length := length_afterNextPoint found
      host :: candidates rest
termination_by host.length

/-- Asks about candidates in order; the first accepted one names the realm. -/
def firstAccepted {I : Interface} (accepts : String → Action I Bool) :
    List String → Action I (Option Realm)
  | [] => return none
  | candidate :: rest => do
    Action.log (.realmCandidate candidate)
    if ← accepts candidate then return some (.ofText candidate)
    else firstAccepted accepts rest

/-- Searches a host name for a realm that a validator accepts. -/
def find {I : Interface} (accepts : String → Action I Bool) (host : Option String) :
    Action I (Option Realm) :=
  match host with
  | none => return none
  | some name => firstAccepted accepts ((candidates name.toList).map String.ofList)

end Realm

end SignOn
