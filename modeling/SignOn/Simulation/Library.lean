import SignOn.Gss.Library
import SignOn.Simulation.Peers

/-!
# A simulated library of the security mechanism

A library that hands out numbered handles and fails where it is told to: at every call of a kind, or
at one of them. Every call counts, also one that fails.
-/

set_option autoImplicit false

namespace SignOn.Simulation

open Gss

/-- A credential of the simulated library: its label and the name it is for. -/
structure LabelledCredential where
  label : String
  name : String

/-- The handles of the simulated library: names by their text, password logins by their label,
contexts by number. -/
def labelled : Handles := ⟨String, String, LabelledCredential, Nat⟩

/-- The kinds of calls that may be told to fail. -/
inductive CallKind where
  | name
  /-- Making a credential, also one of a password login. -/
  | credential
  | context
  | step
  | release
  | delete
  | passwordLogin
  | nameOf
  deriving DecidableEq, Repr

/-- A failure to come: at which calls, and with what error. -/
structure PlannedFailure where
  kind : CallKind
  /-- Which call of that kind fails, counted from one; all of them, if not said. -/
  nth : Option Nat := none
  /-- The credential concerned, where only one is. -/
  label : Option String := none
  error : Error

/-- A simulated library. -/
structure Library where
  /-- The name that every credential reports, if they all report the same one. -/
  reportedName : Option (Option String) := none
  failures : List PlannedFailure := []
  /-- What the coming handshake steps give. -/
  rounds : List (Except Error Round) := []
  /-- The calls so far, the latest first. -/
  calls : List CallKind := []
  /-- The number of fresh texts so far. -/
  texts : Nat := 0
  /-- The contexts whose handshake is complete or not, the latest news first. -/
  complete : List (Nat × Bool) := []

namespace Library

/-- The number of calls of a kind so far. -/
def count (library : Library) (kind : CallKind) : Nat :=
  (library.calls.filter (· == kind)).length

/-- Counts a call; it gives a value unless a failure is planned for it. -/
def call {α : Type} (library : Library) (kind : CallKind) (label : Option String) (value : α) :
    Except Error α × Library :=
  let counted := { library with calls := kind :: library.calls }
  let failing := library.failures.find? (fun failure =>
    failure.kind == kind && failure.nth.all (· == counted.count kind) &&
      failure.label.all (fun wanted => label == some wanted))
  match failing with
  | some failure => (.error failure.error, counted)
  | none => (.ok value, counted)

/-- The name of a credential that was acquired for a name, or for the default one. -/
def nameOrDefault (name : Option String) : String := name.getD loginPrincipal

/-- The label of what the next call of a kind hands out: what it is, and the number of the call. -/
def nextLabel (library : Library) (kind : CallKind) (thing : String) : String :=
  thing ++ toString (library.count kind + 1)

/-- Thirty-two hexadecimal digits. -/
def longText (number : Nat) : String :=
  let digits := Nat.toDigits 16 number
  String.ofList (List.replicate (32 - digits.length) '0' ++ digits)

/-- Whether the handshake of a context is complete; that of an unknown one is not. -/
def isComplete (library : Library) (number : Nat) : Bool :=
  ((library.complete.find? (fun news => news.1 == number)).map (·.2)).getD false

/-- The library once a handshake is complete or not, if there is news of it. -/
def noted (library : Library) (number : Nat) (news : Option Bool) : Library :=
  match news with
  | some flag => { library with complete := (number, flag) :: library.complete }
  | none => library

/-- The simulated library in action. -/
def answer : Dialogue.Answerer (Gss.library labelled) Library
  | .name text _, library => library.call .name none text
  | .credential name _ _, library =>
    library.call .credential none ⟨library.nextLabel .credential "cred", nameOrDefault name⟩
  | .passwordLogin _ _, library =>
    library.call .passwordLogin none (library.nextLabel .passwordLogin "raw")
  | .credentialOf _, library =>
    library.call .credential none ⟨library.nextLabel .credential "cred", nameOrDefault none⟩
  | .nameOf credential, library =>
    library.call .nameOf (some credential.label)
      (library.reportedName.getD (some credential.name))
  | .release _, library => library.call .release none ()
  | .context _ _ _ _, library => library.call .context none (library.count .context + 1)
  | .step context _, library =>
    match library.call .step none () with
    | (.error error, counted) => (.error error, counted)
    | (.ok (), counted) =>
      let rest := { counted with rounds := counted.rounds.tail }
      match counted.rounds with
      | [] => (.ok none, rest)
      | .error error :: _ => (.error error, rest)
      | .ok round :: _ => (.ok round.out, rest.noted context round.established)
  | .isComplete context, library => (.ok (library.isComplete context), library)
  | .delete _, library => library.call .delete none ()
  | .freshText, library =>
    (.ok (longText (library.texts + 1)), { library with texts := library.texts + 1 })

end Library

end SignOn.Simulation
