import SignOn.Handshake.Machine
import SignOn.Proofs.Machine.Traces

/-!
# Accepted handshake events

A tracker whose only guard is the one on context creation accepts whatever its table provides for
(`Handshake.judge_eq_accepted`). An accepted event moves it, and nothing else is changed.
-/

set_option autoImplicit false

namespace SignOn.Handshake

/-- The transition of an event from one state to another. -/
def transition (source : HandshakeState) (event : Event) (target : HandshakeState) :
    Machine.Transition HandshakeState Kind :=
  ⟨source, event.kind, target, event.details⟩

/-- The tracker after it accepted an event that leads to a state. -/
def moved (tracker : Tracker) (target : HandshakeState) (event : Event) : Tracker :=
  { tracker with
    state := target
    history := tracker.history ++ [transition tracker.state event target] }

/-- Contexts are created where the handshake has not started, and nowhere else. -/
theorem eq_notStarted_of_next {state target : HandshakeState}
    (provided : next state .contextCreated = some target) : state = .notStarted := by
  cases state with
  | notStarted => rfl
  | inProgress | established | failed => cases provided

/-- The guard on context creation allows every move that the table provides for, as long as no token
was exchanged before. -/
theorem createdOnce_allows {tracker : Tracker} {target : HandshakeState} {event : Event}
    (provided : next tracker.state event.kind = some target)
    (first : event.kind = .contextCreated → rounds tracker.history = 0) :
    createdOnce.allows tracker.state tracker.history target event = true := by
  by_cases creation : event.kind = .contextCreated
  · rw [creation] at provided
    simp [createdOnce, first creation, eq_notStarted_of_next provided]
  · simp [createdOnce, creation]

/-- A tracker without further guards accepts every event that its table provides for, as long as no
token was exchanged before the context is created. -/
theorem judge_eq_accepted {tracker : Tracker} {target : HandshakeState} {event : Event}
    (guards : tracker.guards = [createdOnce])
    (provided : next tracker.state event.kind = some target)
    (first : event.kind = .contextCreated → rounds tracker.history = 0) :
    tracker.judge rules event = .accepted target := by
  refine Machine.Running.judge_eq_accepted_iff.mpr ⟨provided, ?_⟩
  intro guard member
  rw [guards, List.mem_singleton] at member
  rw [member]
  exact createdOnce_allows provided first

/-- An accepted event moves the tracker. -/
theorem process_of_accepted {tracker : Tracker} {target : HandshakeState} {event : Event}
    (accepted : tracker.judge rules event = .accepted target) :
    tracker.process rules event = (.accepted target, moved tracker target event) := by
  simp only [Machine.Running.process, accepted]
  rfl

/-- An event that is accepted is logged as a transition. -/
theorem logged_of_accepted {tracker : Tracker} {target : HandshakeState} {event : Event}
    (accepted : tracker.judge rules event = .accepted target) :
    tracker.logged rules event =
      .stateTransition tracker.state.name target.name event.kind.name := by
  simp only [Machine.Running.logged, accepted]
  rfl

end SignOn.Handshake
