import SignOn.Session.Peer
import SignOn.Simulation.Tables

/-!
# Peers that follow a script

Peers of a session that succeed or fail call by call as a script says. A call beyond the end of its
script succeeds; a handshake step beyond the end gives no token.
-/

set_option autoImplicit false

namespace SignOn.Simulation

/-- The errors that successive calls raise; a call without one succeeds. -/
abbrev Script : Type := List (Option Error)

/-- What a handshake step gives, and whether the context is established then, if that changes. -/
structure Round where
  out : Option Token
  established : Option Bool := none

/-- Scripted peers: identities are known by the text of their principal, contexts by number. -/
def scriptedPeers : SignOn.Peers := ⟨Option String, Unit, Nat⟩

/-- What is left of the scripts. -/
structure PeerScripts where
  /-- The ambient identity, if there is one. -/
  ambient : Option (Option String) := none
  ambientErrors : Script := []
  login : Script := []
  credential : Script := []
  disposeCredential : Script := []
  logout : Script := []
  create : Script := []
  disposeContext : Script := []
  rounds : List (Except Error Round) := []
  /-- Of each context, whether it is established. -/
  established : Array Bool := #[]

/-- The principal of every scripted login. -/
def loginPrincipal : String := "app@EXAMPLE.COM"

/-- A call that goes by a script: its value unless the script holds an error. -/
def call {α : Type} (script : Script) (value : α) : Except Error α :=
  match script.head? with
  | some (some error) => .error error
  | _ => .ok value

/-- Whether a context is established; an unknown one is not. -/
def PeerScripts.isEstablished (state : PeerScripts) (number : Nat) : Bool :=
  (state.established[number]?).getD false

/-- The scripts once a context is established or not, if there is news of it. -/
def PeerScripts.noted (state : PeerScripts) (number : Nat) (news : Option Bool) : PeerScripts :=
  match news with
  | some flag => { state with established := state.established.setIfInBounds number flag }
  | none => state

/-- Scripted peers in action. -/
def PeerScripts.answer : Dialogue.Answerer scriptedPeers.collaborators PeerScripts
  | .ambientIdentity, state =>
    (call state.ambientErrors state.ambient,
      { state with ambientErrors := state.ambientErrors.tail })
  | .login _, state =>
    (call state.login (some loginPrincipal), { state with login := state.login.tail })
  | .acquireCredential _ _, state =>
    (call state.credential (), { state with credential := state.credential.tail })
  | .createContext _ _ _, state =>
    match call state.create state.established.size with
    | .ok number =>
      (.ok number,
        { state with create := state.create.tail, established := state.established.push false })
    | .error error => (.error error, { state with create := state.create.tail })
  | .step context _, state =>
    let rest := { state with rounds := state.rounds.tail }
    match state.rounds with
    | [] => (.ok none, rest)
    | .error error :: _ => (.error error, rest)
    | .ok round :: _ => (.ok round.out, rest.noted context round.established)
  | .isEstablished context, state => (.ok (state.isEstablished context), state)
  | .disposeCredential _, state =>
    (call state.disposeCredential (),
      { state with disposeCredential := state.disposeCredential.tail })
  | .disposeContext _, state =>
    (call state.disposeContext (), { state with disposeContext := state.disposeContext.tail })
  | .logout _, state => (call state.logout (), { state with logout := state.logout.tail })
  | .report _ _, state => (.ok (), state)

end SignOn.Simulation
