import SignOn.Proofs.Gss.Calls
import SignOn.Simulation.Library
import SignOn.Simulation.Tables

/-!
# Every handle is given back once

A binding is driven by calls in any order, on any of the items that it handed out. Main statement:
if the library hands out fresh handles, none is given back twice, whatever fails and however often
an item is given up; a borrowed handle is left to its identity; and what was handed out with an
item is given back exactly once when everything has been given up (`settled_once`).
-/

set_option autoImplicit false

namespace SignOn.Gss

open Binding (Takes slots)
open Dialogue (Happening)

variable {H : Handles}

/-! ## Turns -/

/-- A binding that has handed nothing out yet. -/
def opened (registry : Login.Registry) (passwordLogins : Bool) : Binding H :=
  { availability := .available passwordLogins, registry := registry }

/-- A call, the binding before it, what happened during it, what came of it and the binding after
it. -/
structure Turn (H : Handles) where
  call : Call
  before : Binding H
  history : List (Happening (library H))
  outcome : Except Error (Option Item)
  after : Binding H

/-- Makes calls on a binding, one after the other, whatever comes of each. -/
def turns {σ : Type} (answer : Dialogue.Answerer (library H) σ) :
    Binding H → List Call → σ → List (Turn H)
  | _, [], _ => []
  | binding, call :: calls, state =>
    let run := (call.work.start binding).run answer state
    ⟨call, binding, run.history, run.value.1, run.value.2⟩ ::
      turns answer run.value.2 calls run.state

/-- All that happened during some turns. -/
def happenings (turns : List (Turn H)) : List (Happening (library H)) :=
  turns.flatMap Turn.history

/-- A turn hands an item out, with a handle. -/
def Turn.HandsOut (turn : Turn H) (item : Item) (handle : Handle H) : Prop :=
  turn.outcome = .ok (some item) ∧ turn.after.slots.handle? item = some handle

/-- A credential is acquired with the handle of its identity. -/
def Turn.Borrows (turn : Turn H) (handle : Handle H) : Prop :=
  acquired turn.history = [] ∧ ∃ identity mechanism,
    turn.call = .acquireCredential identity mechanism ∧
    turn.before.slots.handle? ⟨.identity, identity⟩ = some handle

/-- What becomes of the handle of an item in the turns after the one that handed the item out.
Either it was acquired for the item, and is given back by the time the item is given up, or the item
is a credential that borrows it, and giving the credential up never gives anything back. -/
def Turn.AccountsFor (turn : Turn H) (item : Item) (handle : Handle H) (later : List (Turn H)) :
    Prop :=
  (acquired turn.history = [handle] ∧
      ((∃ other ∈ later, other.call = .giveUp item) → handle ∈ settled (happenings later))) ∨
    (item.kind = .credential ∧ turn.Borrows handle ∧
      ∀ other ∈ later, other.call = .giveUp item → settled other.history = [])

/-- Every item that is handed out is given up later, at least once. -/
def AllGivenUp : List (Turn H) → Prop
  | [] => True
  | turn :: later =>
    (∀ item, turn.outcome = .ok (some item) → ∃ other ∈ later, other.call = .giveUp item) ∧
      AllGivenUp later

/-- A handle is given back exactly once. -/
def IsSettledOnce (handle : Handle H) (history : List (Happening (library H))) : Prop :=
  ∃ before after, settled history = before ++ handle :: after ∧ handle ∉ before ∧ handle ∉ after

/-- What happens in two lists of turns is what happens in the one and then in the other. -/
theorem happenings_append (earlier later : List (Turn H)) :
    happenings (earlier ++ later) = happenings earlier ++ happenings later := List.flatMap_append

/-- What happens in turns is what happens in the first and then in the others. -/
theorem happenings_cons (turn : Turn H) (later : List (Turn H)) :
    happenings (turn :: later) = turn.history ++ happenings later := rfl

/-- Turns lead from one binding to another. -/
inductive Leads : Binding H → List (Turn H) → Binding H → Prop where
  | done (binding : Binding H) : Leads binding [] binding
  | turn {turn : Turn H} {later : List (Turn H)} {last : Binding H}
      (takes : Takes turn.before turn.call turn.history turn.outcome turn.after)
      (rest : Leads turn.after later last) : Leads turn.before (turn :: later) last

/-- The turns of any calls against any library lead somewhere. -/
theorem leads_turns {σ : Type} (answer : Dialogue.Answerer (library H) σ) {binding : Binding H}
    (available : binding.availability.isAvailable = true) (calls : List Call) (state : σ) :
    ∃ last, Leads binding (turns answer binding calls state) last := by
  induction calls generalizing binding state with
  | nil => exact ⟨binding, .done binding⟩
  | cons call calls ih =>
    have path := Dialogue.run_path answer (call.work.start binding) state
    have takes := Binding.path_call available path
    have still : ((call.work.start binding).run answer state).value.2.availability.isAvailable =
        true := by
      rw [takes.availability_eq, available]
    obtain ⟨last, rest⟩ := ih still _
    have leads : Leads (Turn.mk call binding _ _ _).before _ last := .turn takes rest
    exact ⟨last, leads⟩

/-- Turns that lead somewhere can be cut in two anywhere. -/
theorem Leads.split {binding last : Binding H} {earlier later : List (Turn H)}
    (leads : Leads binding (earlier ++ later) last) :
    ∃ middle, Leads binding earlier middle ∧ Leads middle later last := by
  induction earlier generalizing binding with
  | nil => exact ⟨binding, .done binding, leads⟩
  | cons turn earlier ih =>
    cases leads with
    | turn takes rest =>
      obtain ⟨middle, first, second⟩ := ih rest
      exact ⟨middle, .turn takes first, second⟩

/-! ## What runs keep -/

/-- A balance is kept through a whole run. -/
theorem Leads.balanced {binding last : Binding H} {run : List (Turn H)}
    (leads : Leads binding run last) {gained given : List (Handle H)}
    (balanced : Balanced binding.slots gained given) :
    Balanced last.slots (gained ++ acquired (happenings run))
      (given ++ settled (happenings run)) := by
  induction leads generalizing gained given with
  | done => simpa [happenings, acquired, settled] using balanced
  | turn takes rest ih =>
    have next := ih (takes.effect.balanced balanced)
    rwa [List.append_assoc, List.append_assoc, ← acquired_append, ← settled_append,
      ← happenings_cons] at next

/-- During a run an item keeps its slot, or is given up with its handle if the slot owns it. -/
theorem Leads.slot_cases {binding last : Binding H} {run : List (Turn H)}
    (leads : Leads binding run last) {item : Item} {slot : Slot H}
    (present : binding.slots.slot? item = some slot) :
    (last.slots.slot? item = some slot ∧
        ∀ turn ∈ run, turn.call = .giveUp item → slot.handle = none) ∨
      ∃ handle, slot.handle = some handle ∧ last.slots.slot? item = some ⟨none, slot.owns⟩ ∧
        (slot.owns = true → handle ∈ settled (happenings run)) := by
  induction leads generalizing slot with
  | done => exact .inl ⟨present, by simp⟩
  | @turn turn later last takes rest ih =>
    rw [happenings_cons, settled_append]
    rcases takes.effect.slot_cases present with ⟨kept, idle⟩ | ⟨handle, call, held, emptied, gave⟩
    · rcases ih kept with ⟨still, never⟩ | ⟨handle, held, emptied, gives⟩
      · refine .inl ⟨still, List.forall_mem_cons.mpr ⟨fun same => (idle same).1, never⟩⟩
      · refine .inr ⟨handle, held, emptied, ?_⟩
        intro owns
        exact List.mem_append_right _ (gives owns)
    · refine .inr ⟨handle, held, ?_, ?_⟩
      · rcases ih emptied with ⟨still, _⟩ | ⟨_, contradiction, _⟩
        · exact still
        · cases contradiction
      · intro owns
        rw [gave, if_pos owns]
        exact List.mem_append_left _ (List.mem_singleton_self handle)

/-- An item has no other handle than the one it came with. -/
theorem Leads.handle_eq {binding last : Binding H} {run : List (Turn H)}
    (leads : Leads binding run last) {item : Item} {first handle : Handle H} {owns : Bool}
    (present : binding.slots.slot? item = some ⟨some first, owns⟩)
    (held : last.slots.handle? item = some handle) : handle = first := by
  rcases leads.slot_cases present with ⟨kept, _⟩ | ⟨_, _, emptied, _⟩
  · rw [Slots.handle?, kept] at held
    cases held
    rfl
  · rw [Slots.handle?, emptied] at held
    cases held

/-- An item without ownership gives nothing back, however often it is given up. -/
theorem Leads.nothing_of_borrowed {binding last : Binding H} {run : List (Turn H)}
    (leads : Leads binding run last) {item : Item} {slot : Slot H}
    (present : binding.slots.slot? item = some slot) (borrowed : slot.owns = false) :
    ∀ turn ∈ run, turn.call = .giveUp item → settled turn.history = [] := by
  induction leads generalizing slot with
  | done => simp
  | @turn turn later last takes rest ih =>
    rw [List.forall_mem_cons]
    rcases takes.effect.slot_cases present with ⟨kept, idle⟩ | ⟨_, _, _, emptied, gave⟩
    · exact ⟨fun same => (idle same).2, ih kept borrowed⟩
    · exact ⟨fun _ => by rw [gave, borrowed]; rfl, ih emptied borrowed⟩

/-- What is there at the end was there at the start or was handed out on the way. -/
theorem Leads.handed_out {binding last : Binding H} {run : List (Turn H)}
    (leads : Leads binding run last) {item : Item} (present : (last.slots.slot? item).isSome) :
    (binding.slots.slot? item).isSome ∨
      ∃ earlier turn later, run = earlier ++ turn :: later ∧ turn.outcome = .ok (some item) := by
  induction leads with
  | done => exact .inl present
  | @turn turn later last takes rest ih =>
    rcases ih present with here | ⟨earlier, other, later, rfl, outcome⟩
    · rcases takes.effect.slot_isSome here with before | outcome
      · exact .inl before
      · exact .inr ⟨[], turn, later, rfl, outcome⟩
    · exact .inr ⟨turn :: earlier, other, later, rfl, outcome⟩

/-- Where all items are given up, an item that a turn hands out is given up in a later one. -/
theorem AllGivenUp.later {earlier later : List (Turn H)} {turn : Turn H} {item : Item}
    (all : AllGivenUp (earlier ++ turn :: later)) (outcome : turn.outcome = .ok (some item)) :
    ∃ other ∈ later, other.call = .giveUp item := by
  induction earlier with
  | nil => exact all.1 item outcome
  | cons first earlier ih => exact ih all.2

/-- Where nothing is given back twice, what is given back is given back once. -/
theorem isSettledOnce_of_nodup {handle : Handle H} {history : List (Happening (library H))}
    (once : (settled history).Nodup) (member : handle ∈ settled history) :
    IsSettledOnce handle history := by
  obtain ⟨before, after, split⟩ := List.append_of_mem member
  refine ⟨before, after, split, ?_⟩
  rw [split, List.nodup_append, List.nodup_cons] at once
  exact ⟨fun inside => once.2.2 handle inside handle List.mem_cons_self rfl, once.2.1.1⟩

/-! ## Whole runs -/

/-- A binding that has handed nothing out is balanced. -/
theorem balanced_opened (registry : Login.Registry) (passwordLogins : Bool) :
    Balanced (opened registry passwordLogins : Binding H).slots [] [] := by
  intro sort
  simp [opened, Slots.owned, slots]

/-- A binding that has handed nothing out has no slots. -/
theorem slot?_opened (registry : Login.Registry) (passwordLogins : Bool) (item : Item) :
    (opened registry passwordLogins : Binding H).slots.slot? item = none := by
  obtain ⟨_ | _ | _, number⟩ := item <;> simp [opened, Slots.slot?, slots]

/-- An item keeps the handle that was acquired for it. -/
theorem slot?_of_acquired {turn : Turn H}
    (takes : Takes turn.before turn.call turn.history turn.outcome turn.after) {item : Item}
    {handle : Handle H} (outcome : turn.outcome = .ok (some item))
    (gained : acquired turn.history = [handle]) :
    turn.after.slots.slot? item = some ⟨some handle, true⟩ := by
  have effect := takes.effect
  rw [outcome] at effect
  obtain ⟨other, owns, kept, _, _, how⟩ := effect.slot_of_handed_out
  cases owns with
  | false => simp [gained] at how
  | true =>
    have same : handle = other := by simpa [gained] using how
    rw [kept, same]

/-- An item comes with a handle that is accounted for. -/
theorem Leads.accountsFor {binding last : Binding H} {later : List (Turn H)} {turn : Turn H}
    (leads : Leads binding (turn :: later) last) {item : Item}
    (outcome : turn.outcome = .ok (some item)) :
    ∃ handle, turn.HandsOut item handle ∧ turn.AccountsFor item handle later := by
  cases leads with
  | turn takes rest =>
    have effect := takes.effect
    rw [outcome] at effect
    obtain ⟨handle, owns, kept, _, _, how⟩ := effect.slot_of_handed_out
    have handsOut : turn.HandsOut item handle := by
      refine ⟨outcome, ?_⟩
      rw [Slots.handle?, kept]
      rfl
    refine ⟨handle, handsOut, ?_⟩
    cases owns with
    | false =>
      obtain ⟨nothing, kind, lent⟩ := how
      exact .inr ⟨kind, ⟨nothing, lent⟩, rest.nothing_of_borrowed kept rfl⟩
    | true =>
      refine .inl ⟨how, ?_⟩
      rintro ⟨giving, member, call⟩
      rcases rest.slot_cases kept with ⟨_, never⟩ | ⟨found, held, _, gives⟩
      · cases never giving member call
      · cases held
        exact gives rfl

/-- The handle of an identity was acquired in the turn that handed the identity out. -/
theorem Leads.lender {registry : Login.Registry} {passwordLogins : Bool} {last : Binding H}
    {run : List (Turn H)} (leads : Leads (opened registry passwordLogins) run last)
    {identity : IdentityRef} {handle : Handle H}
    (held : last.slots.handle? ⟨.identity, identity⟩ = some handle) :
    ∃ earlier turn later, run = earlier ++ turn :: later ∧
      turn.outcome = .ok (some ⟨.identity, identity⟩) ∧ acquired turn.history = [handle] := by
  have present : (last.slots.slot? ⟨.identity, identity⟩).isSome := by
    rw [Slots.handle?] at held
    exact Option.isSome_of_isSome_bind (by rw [held]; rfl)
  rcases leads.handed_out present with before | ⟨earlier, turn, later, rfl, outcome⟩
  · rw [slot?_opened] at before
    cases before
  refine ⟨earlier, turn, later, rfl, outcome, ?_⟩
  obtain ⟨middle, _, leads⟩ := leads.split
  obtain ⟨first, _, ⟨gained, _⟩ | ⟨kind, _⟩⟩ := leads.accountsFor outcome
  · cases leads with
    | turn takes rest => rw [gained, rest.handle_eq (slot?_of_acquired takes outcome gained) held]
  · cases kind

/-- A handle that is acquired in a run is acquired in one of its turns. -/
theorem exists_turn_of_mem_acquired {run : List (Turn H)} {handle : Handle H}
    (member : handle ∈ acquired (happenings run)) :
    ∃ earlier turn later, run = earlier ++ turn :: later ∧ handle ∈ acquired turn.history := by
  obtain ⟨happening, happened, seen⟩ := List.mem_filterMap.mp member
  obtain ⟨turn, inside, there⟩ := List.mem_flatMap.mp happened
  obtain ⟨earlier, later, split⟩ := List.append_of_mem inside
  exact ⟨earlier, turn, later, split, List.mem_filterMap.mpr ⟨happening, there, seen⟩⟩

/-- In an orderly run a handle is acquired for an item or given back at once. -/
theorem Leads.tidy {binding last : Binding H} {run earlier later : List (Turn H)} {turn : Turn H}
    (leads : Leads binding run last)
    (orderly : ∀ happening ∈ happenings run, isOrderly happening = true)
    (split : run = earlier ++ turn :: later) {handle : Handle H}
    (member : handle ∈ acquired turn.history) :
    (∃ item, turn.outcome = .ok (some item)) ∨ handle ∈ settled turn.history := by
  subst split
  obtain ⟨middle, _, leads⟩ := leads.split
  rw [happenings_append, happenings_cons, List.forall_mem_append, List.forall_mem_append] at orderly
  cases leads with
  | turn takes rest => exact takes.tidy orderly.2.1 handle member

/-- Whatever the library does, and in whatever order items are handed out and given up: if the
handles that it hands out are fresh, none of them is given back twice. Every item comes with a
handle, which is accounted for by itself or, if it is borrowed, by its identity. When every item has
been given up, every handle of an item was given back exactly once; and so was every handle at all,
also those of failed logins, if the library is orderly. -/
theorem settled_once {σ : Type} (answer : Dialogue.Answerer (library H) σ)
    (registry : Login.Registry) (passwordLogins : Bool) (calls : List Call) (state : σ)
    (fresh :
      (acquired (happenings (turns answer (opened registry passwordLogins) calls state))).Nodup) :
    let run := turns answer (opened registry passwordLogins) calls state
    (settled (happenings run)).Nodup ∧
    (∀ earlier turn later item, run = earlier ++ turn :: later → turn.outcome = .ok (some item) →
      ∃ handle, turn.HandsOut item handle ∧ turn.AccountsFor item handle later) ∧
    (AllGivenUp run → ∀ turn ∈ run, ∀ item handle, turn.HandsOut item handle →
      IsSettledOnce handle (happenings run)) ∧
    (AllGivenUp run → (∀ happening ∈ happenings run, isOrderly happening = true) →
      ∀ handle ∈ acquired (happenings run), IsSettledOnce handle (happenings run)) := by
  intro run
  have available : (opened registry passwordLogins : Binding H).availability.isAvailable = true :=
    rfl
  obtain ⟨last, leads⟩ := leads_turns answer available calls state
  change Leads _ run last at leads
  have once : (settled (happenings run)).Nodup :=
    (leads.balanced (balanced_opened registry passwordLogins)).nodup fresh
  have accounts : ∀ earlier turn later item, run = earlier ++ turn :: later →
      turn.outcome = .ok (some item) →
      ∃ handle, turn.HandsOut item handle ∧ turn.AccountsFor item handle later := by
    intro earlier turn later item split outcome
    rw [split] at leads
    obtain ⟨middle, _, leads⟩ := leads.split
    exact leads.accountsFor outcome
  -- What was acquired for an item is given back: its own turn says so.
  have given : AllGivenUp run → ∀ earlier turn later item handle, run = earlier ++ turn :: later →
      turn.outcome = .ok (some item) → acquired turn.history = [handle] →
      handle ∈ settled (happenings run) := by
    intro all earlier turn later item handle split outcome gained
    obtain ⟨found, _, ⟨same, gives⟩ | ⟨_, ⟨nothing, _⟩, _⟩⟩ :=
      accounts earlier turn later item split outcome
    · rw [split] at all ⊢
      rw [gained] at same
      cases same
      rw [happenings_append, happenings_cons, settled_append, settled_append]
      exact List.mem_append_right _ (List.mem_append_right _ (gives (all.later outcome)))
    · rw [gained] at nothing
      cases nothing
  refine ⟨once, accounts, ?held, ?leaked⟩
  case held =>
    intro all turn member item handle handsOut
    apply isSettledOnce_of_nodup once
    obtain ⟨earlier, later, split⟩ := List.append_of_mem member
    obtain ⟨found, ⟨_, held⟩, how⟩ := accounts earlier turn later item split handsOut.1
    have same : found = handle := Option.some.inj (held.symm.trans handsOut.2)
    subst same
    -- a borrowed handle is one that its identity came with, whose own turn accounts for it
    rcases how with ⟨gained, _⟩ | ⟨_, ⟨_, identity, _, _, lent⟩, _⟩
    · exact given all earlier turn later item found split handsOut.1 gained
    · rw [split] at leads
      obtain ⟨middle, first, second⟩ := leads.split
      cases second with
      | turn takes rest =>
        obtain ⟨before, lender, between, rfl, outcome, gained⟩ := first.lender lent
        rw [List.append_assoc, List.cons_append] at split
        exact given all before lender _ _ found split outcome gained
  case leaked =>
    intro all orderly handle member
    apply isSettledOnce_of_nodup once
    obtain ⟨earlier, turn, later, split, inside⟩ := exists_turn_of_mem_acquired member
    rcases leads.tidy orderly split inside with ⟨item, outcome⟩ | settledThere
    · obtain ⟨found, _, ⟨gained, _⟩ | ⟨_, ⟨nothing, _⟩, _⟩⟩ :=
        accounts earlier turn later item split outcome
      · rw [gained, List.mem_singleton] at inside
        subst inside
        exact given all earlier turn later item handle split outcome gained
      · rw [nothing] at inside
        cases inside
    · rw [split, happenings_append, happenings_cons, settled_append, settled_append]
      exact List.mem_append_right _ (List.mem_append_left _ settledThere)

/-- A library that fails to release a credential once. -/
def stumbling : Simulation.Library where
  failures := [{
    kind := .release, nth := some 1, error := Simulation.failure .mechanism "no such credential" }]

/-- A credential is lent by an identity that is logged out before it, and again after it. -/
def lentTurns : List (Turn Simulation.labelled) :=
  turns Simulation.Library.answer (opened {} false)
    [ .login defaultLogin, .acquireCredential 0 "1.2.840.113554.1.2.2",
      .createContext .default "MSSQLSvc/db:1433@A.COM" "1.2.840.113554.1.2.2" (some 0),
      .giveUp ⟨.identity, 0⟩, .giveUp ⟨.credential, 0⟩, .giveUp ⟨.identity, 0⟩,
      .giveUp ⟨.context, 0⟩ ] stumbling

/-- The handle of the identity is given back once, although that fails, and not with the credential
that borrows it. -/
theorem lent_given_back :
    acquired (happenings lentTurns) =
        [.credential ⟨"cred1", "app@EXAMPLE.COM"⟩, .context (1 : Nat)] ∧
      (acquired (happenings lentTurns)).Nodup ∧ AllGivenUp lentTurns ∧
      (∀ happening ∈ happenings lentTurns, isOrderly happening = true) ∧
      (∀ turn ∈ lentTurns, ∀ item handle, turn.HandsOut item handle →
        IsSettledOnce handle (happenings lentTurns)) ∧
      ∀ handle ∈ acquired (happenings lentTurns),
        IsSettledOnce handle (happenings lentTurns) := by
  have acquired_eq : acquired (happenings lentTurns) =
      [.credential ⟨"cred1", "app@EXAMPLE.COM"⟩, .context (1 : Nat)] := by
    rfl
  have fresh : (acquired (happenings lentTurns)).Nodup := by
    rw [acquired_eq]
    simp
  have all : AllGivenUp lentTurns := by
    refine ⟨?_, ?_, ?_, ?_, ?_, ?_, ?_, trivial⟩ <;> rintro item ⟨⟩
    · exact ⟨_, .tail _ (.tail _ (.head _)), rfl⟩
    · exact ⟨_, .tail _ (.tail _ (.head _)), rfl⟩
    · exact ⟨_, .tail _ (.tail _ (.tail _ (.head _))), rfl⟩
  have orderly : ∀ happening ∈ happenings lentTurns, isOrderly happening = true := by
    decide +kernel
  obtain ⟨_, _, held, leaked⟩ := settled_once Simulation.Library.answer {} false _ stumbling fresh
  exact ⟨acquired_eq, fresh, all, orderly, held all, leaked all orderly⟩

end SignOn.Gss
