import SignOn.Proofs.Ace.Ports
import SignOn.Proofs.ServiceName.Reading
import SignOn.ServiceName.Derived

/-!
# Derived names given by the user

Of a name that the user gives everything after the first slash is encoded as one host name, port
included. Main statement: the name that is derived from host and port is also what becomes of the
unencoded one when the user gives it, just if the last label of the host needs no Punycode and has
room for the port (`normalized_textFor_iff`).
-/

set_option autoImplicit false

namespace SignOn.ServiceName

open Ace (toAscii labelwise)

/-- A text is split at its first slash. -/
theorem splitService_append {service : List Char} (slashless : '/' ∉ service) (rest : List Char) :
    splitService (service ++ '/' :: rest) = some (service, rest) := by
  induction service with
  | nil => rfl
  | cons c others ih =>
    rw [List.mem_cons, not_or] at slashless
    rw [List.cons_append, splitService, if_neg (Ne.symm slashless.1), ih slashless.2]
    rfl

/-- A host with a port behind a colon. -/
def withPort (host : String) (port : Int) : String := host ++ ":" ++ toString port

/-- The characters of a host with a port: those of both, with a colon in between. -/
theorem toList_withPort (host : String) (port : Int) :
    (withPort host port).toList = host.toList ++ ':' :: (toString port).toList := by
  simp [withPort]

/-- The text for a host is made of the service part and the host with its port. -/
theorem textFor_eq (host : String) (port : Int) :
    textFor host port = databaseService ++ "/" ++ withPort host port := by
  rw [textFor, withPort, ← String.append_assoc, ← String.append_assoc]

/-- Of an unencoded name the host is encoded with the port. -/
theorem normalized_textFor (host : String) (port : Int) :
    normalized (textFor host port) true =
      (encodedHost (withPort host port)).map
        (fun encoded => databaseService ++ "/" ++ encoded) := by
  have slashless : '/' ∉ databaseService.toList := by decide
  have chars : (textFor host port).toList =
      databaseService.toList ++ '/' :: (withPort host port).toList := by
    rw [textFor_eq]
    simp
  rw [normalized, if_pos rfl, chars, splitService_append slashless]
  simp only [String.ofList_toList]
  rfl

/-- A host is encoded label by label. -/
theorem encodedHost_eq_ok_iff {host encoded : String} :
    encodedHost host = .ok encoded ↔ labelwise host.toList = .ok encoded.toList := by
  rw [encodedHost, Ace.toAscii_eq]
  cases labelwise host.toList with
  | error error => constructor <;> intro impossible <;> cases impossible
  | ok form =>
    show Except.ok (String.ofList form) = Except.ok encoded ↔ _
    rw [Except.ok.injEq, Except.ok.injEq, ← String.toList_inj, String.toList_ofList]

/-- A derived name is the text for the encoded host, if it has an encoding. -/
theorem derived_eq_ok_iff {host spn : String} {port : Int} :
    derived host port true = .ok spn ↔
      ∃ encoded, encodedHost host = .ok encoded ∧ textFor encoded port = spn := by
  simp only [derived, if_true]
  cases encodedHost host with
  | error error =>
    constructor
    · intro impossible
      cases impossible
    · rintro ⟨_, impossible, _⟩
      cases impossible
  | ok encoded =>
    show Except.ok (textFor encoded port) = Except.ok spn ↔ _
    simp

/-- The port can stand behind the host in one host name: the last label of the host needs no
Punycode, and with a colon and the port it is short enough. -/
def TakesPort (host : String) (port : Int) : Prop :=
  Ace.HasRoomFor (':' :: (toString port).toList) (Ace.lastLabel host.toList)

/-- A name that can be derived from host and port is what becomes of the unencoded one just if the
host takes the port. -/
theorem normalized_textFor_iff (host : String) (port : Int) (spn : String)
    (derives : derived host port true = .ok spn) :
    normalized (textFor host port) true = .ok spn ↔ TakesPort host port := by
  obtain ⟨encoded, forms, rfl⟩ := derived_eq_ok_iff.mp derives
  have numeral : Ace.IsNumeral (toString port).toList := isDigit_or_hyphen_of_mem_toString port
  -- the service part is the same in both names, so they differ by their hosts with the port
  have with_port : normalized (textFor host port) true = .ok (textFor encoded port) ↔
      encodedHost (withPort host port) = .ok (withPort encoded port) := by
    rw [normalized_textFor, textFor_eq]
    cases encodedHost (withPort host port) with
    | error error => constructor <;> intro impossible <;> cases impossible
    | ok longer =>
      show Except.ok (databaseService ++ "/" ++ longer) =
        Except.ok (databaseService ++ "/" ++ withPort encoded port) ↔ _
      simp only [Except.ok.injEq, ← String.toList_inj, String.toList_append,
        List.append_cancel_left_eq]
  -- hosts are encoded label by label, and the port is part of the last label
  rw [encodedHost_eq_ok_iff] at forms
  rw [with_port, encodedHost_eq_ok_iff, toList_withPort, toList_withPort, TakesPort,
    Ace.labelwise_append_port_iff numeral forms]

/-- A host with a last label that is short enough for a port. -/
theorem shortHost_takesPort :
    derived "db1.example.com" 1433 true = .ok "MSSQLSvc/db1.example.com:1433" ∧
      normalized (textFor "db1.example.com" 1433) true = .ok "MSSQLSvc/db1.example.com:1433" := by
  have kept : encodedHost "db1.example.com" = .ok "db1.example.com" :=
    encodedHost_eq_ok_iff.mpr (by decide +kernel)
  have derives : derived "db1.example.com" 1433 true = .ok "MSSQLSvc/db1.example.com:1433" :=
    derived_eq_ok_iff.mpr ⟨_, kept, by decide +kernel⟩
  have takes : TakesPort "db1.example.com" 1433 := by
    refine ⟨"com".toList, ?_, ?_⟩ <;> decide +kernel
  exact ⟨derives, (normalized_textFor_iff _ _ _ derives).mpr takes⟩

/-- A host of one label that is as long as a label may be. -/
def longHost : String := String.ofList (List.replicate 63 'a')

/-- The derived name has the host as it is, but with the port behind it the label is too long. -/
theorem longHost_refused :
    derived longHost 1433 true = .ok (textFor longHost 1433) ∧
      normalized (textFor longHost 1433) true = .error (.unencodableHost .labelSize) := by
  have kept : encodedHost longHost = .ok longHost :=
    encodedHost_eq_ok_iff.mpr (by decide +kernel)
  have too_long : labelwise (withPort longHost 1433).toList = .error .labelSize := by decide +kernel
  refine ⟨derived_eq_ok_iff.mpr ⟨_, kept, rfl⟩, ?_⟩
  rw [normalized_textFor, encodedHost, Ace.toAscii_eq, too_long]
  rfl

end SignOn.ServiceName
