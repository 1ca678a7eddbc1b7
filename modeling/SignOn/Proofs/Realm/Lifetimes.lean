import SignOn.Proofs.Realm.Uses
import SignOn.Simulation.Tables

/-!
# How long a choice lasts

Validators are used and the choice is forgotten, in any order, while the world changes in any way. A
turn is one call with what came of it, and every way in which a turn can go is listed
(`Turn.IsListed`). Main statement: a validator is chosen once and stays the chosen one, whatever
becomes of the world, until it is forgotten (`chosen_until_forgotten`).
-/

set_option autoImplicit false

namespace SignOn.Realm.Choice

open Dialogue (Happening)

/-! ## Calls and turns -/

/-- The calls that use a validator or forget the choice. -/
inductive Call where
  /-- Uses the chosen validator. -/
  | use (wanted : Use)
  /-- Uses a validator that is at hand from before, be it still the chosen one or not. -/
  | useHeld (validator : Validator) (wanted : Use)
  | forget

/-- What a call does; a use has a result. -/
def Call.work : Call → Procedure Choice world (Option Result)
  | .use wanted => some <$> wanted.work
  | .useHeld validator wanted => some <$> Procedure.lift (wanted.workWith validator)
  | .forget => do
    set Choice.forget
    return none

/-- What can happen next: something changes the world, or there is a call. -/
inductive Event (σ : Type) where
  | change (change : σ → σ)
  | call (call : Call)

/-- One call with what came of it. -/
structure Turn where
  call : Call
  before : Choice
  history : List (Happening world)
  outcome : Except Error (Option Result)
  after : Choice

/-- The turns in which the calls result, if one thing happens after the other. -/
def turns {σ : Type} (answer : Dialogue.Answerer world σ) :
    Choice → List (Event σ) → σ → List Turn
  | _, [], _ => []
  | choice, .change change :: events, state => turns answer choice events (change state)
  | choice, .call call :: events, state =>
    let run := (call.work.start choice).run answer state
    ⟨call, choice, run.history, run.value.1, run.value.2⟩ ::
      turns answer run.value.2 events run.state

namespace Turn

/-- A turn uses the validator that is chosen already. -/
structure Relies (turn : Turn) (validator : Validator) : Prop where
  before : turn.before = some validator
  after : turn.after = some validator
  works : ∃ wanted result, turn.call = .use wanted ∧ turn.outcome = some <$> result ∧
    (wanted.workWith validator).run.Path turn.history result

/-- A turn selects a validator with the help of a host name and uses it; it is the chosen one from
then on. -/
structure Chooses (turn : Turn) (host : String) (validator : Validator) : Prop where
  before : turn.before = none
  after : turn.after = some validator
  works : ∃ wanted result selecting working, turn.call = .use wanted ∧
    wanted.probe? = some host ∧ turn.outcome = some <$> result ∧
    turn.history = selecting ++ working ∧ Selects host selecting (.ok validator) ∧
    (wanted.workWith validator).run.Path working result

/-- A turn fails as it cannot select a validator, and leaves nothing behind. -/
structure Fails (turn : Turn) (host : String) (error : Error) : Prop where
  before : turn.before = none
  after : turn.after = none
  outcome : turn.outcome = .error error
  works : ∃ wanted, turn.call = .use wanted ∧ wanted.probe? = some host ∧
    Selects host turn.history (.error error)

/-- A turn begins with a selection. -/
def Starts (turn : Turn) (host : String) : Prop :=
  (∃ validator, turn.Chooses host validator) ∨ ∃ error, turn.Fails host error

/-- A turn needs no chosen validator. -/
def IsIdle (turn : Turn) : Prop := ∀ wanted, turn.call = .use wanted → wanted.probe? = none

/-- The ways in which a turn can go. -/
inductive IsListed (turn : Turn) : Prop where
  | forgets (call : turn.call = .forget) (silent : turn.history = []) (after : turn.after = none)
  | holds {validator : Validator} {wanted : Use} {result : Except Error Result}
      (call : turn.call = .useHeld validator wanted)
      (works : (wanted.workWith validator).run.Path turn.history result)
      (kept : turn.after = turn.before)
  | idles {spn : Option String} {allowCanonical : Bool}
      (call : turn.call = .use (.complete spn allowCanonical))
      (idle : (Use.complete spn allowCanonical).probe? = none) (silent : turn.history = [])
      (outcome : turn.outcome = .ok (some (.name spn))) (kept : turn.after = turn.before)
  | uses {wanted : Use} {host : String} (call : turn.call = .use wanted)
      (needed : wanted.probe? = some host)
      (goes : (∃ validator, turn.Relies validator) ∨ turn.Starts host)

/-- A turn that begins with a selection finds no chosen validator. -/
theorem Starts.before {turn : Turn} {host : String} (starts : turn.Starts host) :
    turn.before = none := by
  rcases starts with ⟨_, chooses⟩ | ⟨_, fails⟩
  · exact chooses.before
  · exact fails.before

end Turn

/-! ## Single turns -/

/-- Every path through a use is listed. -/
theorem path_use {wanted : Use} {choice after : Choice} {history : List (Happening world)}
    {result : Except Error Result}
    (path : (wanted.work.start choice).Path history (result, after)) :
    Turn.IsListed ⟨.use wanted, choice, history, some <$> result, after⟩ := by
  cases needed : wanted.probe? with
  | none =>
    obtain ⟨spn, allowCanonical, rfl, start_eq⟩ := Use.start_work_idle needed choice
    rw [start_eq, Dialogue.path_done_iff, Prod.mk.injEq] at path
    obtain ⟨rfl, rfl, rfl⟩ := path
    exact .idles rfl needed rfl rfl rfl
  | some host =>
  cases choice with
  | some validator =>
    rw [Use.start_work_some] at path
    obtain ⟨works, rfl⟩ := Procedure.path_lift path
    exact .uses rfl needed (.inl ⟨validator, rfl, rfl, wanted, result, rfl, rfl, works⟩)
  | none =>
    -- a selection comes first, and the use goes on only with what was selected
    rw [Use.start_work_none needed, Dialogue.path_bind_iff] at path
    obtain ⟨selecting, selected, working, rfl, selects, path⟩ := path
    cases selected with
    | ok validator =>
      change (wanted.work.start (some validator)).Path working (result, after) at path
      rw [Use.start_work_some] at path
      obtain ⟨works, rfl⟩ := Procedure.path_lift path
      have chooses : Turn.Chooses ⟨.use wanted, none, selecting ++ working, some <$> result, _⟩ host
          validator :=
        ⟨rfl, rfl, wanted, result, selecting, working, rfl, needed, rfl, rfl,
          path_selection selects, works⟩
      exact .uses rfl needed (.inr (.inl ⟨validator, chooses⟩))
    | error error =>
      rw [Dialogue.path_done_iff, Prod.mk.injEq] at path
      obtain ⟨rfl, rfl, rfl⟩ := path
      rw [List.append_nil]
      have fails : Turn.Fails ⟨.use wanted, none, selecting, some <$> .error error, none⟩ host
          error :=
        ⟨rfl, rfl, rfl, wanted, rfl, needed, path_selection selects⟩
      exact .uses rfl needed (.inr (.inr ⟨error, fails⟩))

/-- Every way in which a call can go is listed. -/
theorem path_call {call : Call} {choice after : Choice} {history : List (Happening world)}
    {outcome : Except Error (Option Result)}
    (path : (call.work.start choice).Path history (outcome, after)) :
    Turn.IsListed ⟨call, choice, history, outcome, after⟩ := by
  cases call with
  | use wanted =>
    obtain ⟨result, rfl, working⟩ := Procedure.path_map path
    exact path_use working
  | useHeld validator wanted =>
    obtain ⟨result, rfl, working⟩ := Procedure.path_map path
    obtain ⟨works, rfl⟩ := Procedure.path_lift working
    exact .holds rfl works rfl
  | forget =>
    obtain ⟨rfl, _, rfl⟩ := Procedure.path_pure path
    exact .forgets rfl rfl rfl

namespace Turn.IsListed

variable {turn : Turn} {validator : Validator}

/-- A validator stays the chosen one in a turn that does not forget it. -/
theorem after_eq (listed : turn.IsListed) (chosen : turn.before = some validator)
    (kept : turn.call ≠ .forget) : turn.after = some validator := by
  cases listed with
  | forgets call => exact absurd call kept
  | holds _ _ same | idles _ _ _ _ same => rw [same, chosen]
  | uses _ _ goes =>
    rcases goes with ⟨_, relies⟩ | starts
    · rw [relies.after, ← relies.before, chosen]
    · exact absurd (chosen.symm.trans starts.before) (by simp)

/-- If no validator is chosen, none is after a turn that needs none. -/
theorem after_eq_none (listed : turn.IsListed) (unchosen : turn.before = none)
    (idle : turn.IsIdle) : turn.after = none := by
  cases listed with
  | forgets _ _ after => exact after
  | holds _ _ same | idles _ _ _ _ same => rw [same, unchosen]
  | uses call needed => exact absurd (needed.symm.trans (idle _ call)) (by simp)

/-- No validator is chosen after a turn that forgets the choice. -/
theorem after_forget (listed : turn.IsListed) (call : turn.call = .forget) : turn.after = none := by
  cases listed with
  | forgets _ _ after => exact after
  | holds call' | idles call' | uses call' => exact absurd (call.symm.trans call') (by simp)

/-- A use that needs a validator relies on the chosen one or begins with a selection. -/
theorem goes (listed : turn.IsListed) {wanted : Use} {host : String}
    (call : turn.call = .use wanted) (needed : wanted.probe? = some host) :
    (∃ validator, turn.Relies validator) ∨ turn.Starts host := by
  cases listed with
  | forgets call' | holds call' => exact absurd (call.symm.trans call') (by simp)
  | idles call' idle =>
    cases call.symm.trans call'
    exact absurd (needed.symm.trans idle) (by simp)
  | uses call' needed' goes =>
    cases call.symm.trans call'
    cases needed.symm.trans needed'
    exact goes

/-- Where a validator is chosen, a use that needs one relies on it. -/
theorem relies_of_before (listed : turn.IsListed) (chosen : turn.before = some validator)
    {wanted : Use} (call : turn.call = .use wanted) (needed : wanted.probe? ≠ none) :
    turn.Relies validator := by
  obtain ⟨host, needed⟩ := Option.ne_none_iff_exists'.mp needed
  rcases listed.goes call needed with ⟨_, relies⟩ | starts
  · cases chosen.symm.trans relies.before
    exact relies
  · exact absurd (chosen.symm.trans starts.before) (by simp)

/-- Where no validator is chosen, a use that needs one begins with a selection. -/
theorem starts_of_before (listed : turn.IsListed) (unchosen : turn.before = none)
    {wanted : Use} {host : String} (call : turn.call = .use wanted)
    (needed : wanted.probe? = some host) : turn.Starts host := by
  rcases listed.goes call needed with ⟨_, relies⟩ | starts
  · exact absurd (unchosen.symm.trans relies.before) (by simp)
  · exact starts

/-- Where completing a name needs no validator, nothing happens at all. -/
theorem complete_idle (listed : turn.IsListed) {spn : Option String} {allowCanonical : Bool}
    (call : turn.call = .use (.complete spn allowCanonical))
    (idle : (Use.complete spn allowCanonical).probe? = none) :
    turn.history = [] ∧ turn.outcome = .ok (some (.name spn)) ∧ turn.after = turn.before := by
  cases listed with
  | forgets call' | holds call' => exact absurd (call.symm.trans call') (by simp)
  | idles call' _ silent outcome kept =>
    cases call.symm.trans call'
    exact ⟨silent, outcome, kept⟩
  | uses call' needed =>
    cases call.symm.trans call'
    exact absurd (needed.symm.trans idle) (by simp)

/-- Parts of a selection happen only in a selection at the start of a turn. -/
theorem aside (listed : turn.IsListed) :
    (∀ happening ∈ turn.history, isOfSelection happening = false) ∨
      ∃ host selecting working outcome, turn.Starts host ∧ turn.history = selecting ++ working ∧
        Selects host selecting outcome ∧
        ∀ happening ∈ working, isOfSelection happening = false := by
  have working_aside {wanted : Use} {validator : Validator} {history : List (Happening world)}
      {result : Except Error Result}
      (works : (wanted.workWith validator).run.Path history result) :
      ∀ happening ∈ history, isOfSelection happening = false :=
    (Use.aside_workWith validator wanted).forall_mem works
  cases listed with
  | forgets _ silent | idles _ _ silent => exact .inl (by simp [silent])
  | holds _ works => exact .inl (working_aside works)
  | uses _ _ goes =>
    rcases goes with ⟨_, relies⟩ | ⟨_, chooses⟩ | ⟨_, fails⟩
    · obtain ⟨_, _, _, _, works⟩ := relies.works
      exact .inl (working_aside works)
    · obtain ⟨_, _, selecting, working, _, _, _, split, selects, works⟩ := chooses.works
      exact .inr ⟨_, selecting, working, _, .inl ⟨_, chooses⟩, split, selects, working_aside works⟩
    · obtain ⟨_, _, _, selects⟩ := fails.works
      exact .inr ⟨_, turn.history, [], _, .inr ⟨_, fails⟩, by simp, selects, by simp⟩

end Turn.IsListed

/-! ## Runs -/

/-- Listed turns lead from one choice to another. -/
inductive Leads : Choice → List Turn → Choice → Prop where
  | stay (choice : Choice) : Leads choice [] choice
  | turn {turn : Turn} {turns : List Turn} {last : Choice} (listed : turn.IsListed)
      (rest : Leads turn.after turns last) : Leads turn.before (turn :: turns) last

/-- The turns of any events lead from one choice to another. -/
theorem leads_turns {σ : Type} (answer : Dialogue.Answerer world σ) (choice : Choice)
    (events : List (Event σ)) (state : σ) :
    ∃ last, Leads choice (turns answer choice events state) last := by
  induction events generalizing choice state with
  | nil => exact ⟨choice, .stay choice⟩
  | cons event events ih =>
    cases event with
    | change change => exact ih choice (change state)
    | call call =>
      have listed : Turn.IsListed ⟨call, choice, _, _, _⟩ :=
        path_call (Dialogue.run_path answer (call.work.start choice) state)
      obtain ⟨last, rest⟩ := ih _ ((call.work.start choice).run answer state).state
      exact ⟨last, .turn listed rest⟩

variable {choice last : Choice} {run earlier later : List Turn} {turn : Turn}
  {validator : Validator}

/-- Turns that lead somewhere can be cut in two anywhere. -/
theorem Leads.split (leads : Leads choice (earlier ++ later) last) :
    ∃ middle, Leads choice earlier middle ∧ Leads middle later last := by
  induction earlier generalizing choice with
  | nil => exact ⟨choice, .stay choice, leads⟩
  | cons turn turns ih =>
    cases leads with
    | turn listed rest =>
      obtain ⟨middle, first, second⟩ := ih rest
      exact ⟨middle, .turn listed first, second⟩

/-- Turns that lead somewhere can be continued from there. -/
theorem Leads.concat (leads : Leads choice earlier last) (before : turn.before = last)
    (listed : turn.IsListed) : Leads choice (earlier ++ [turn]) turn.after := by
  induction leads with
  | stay =>
    rw [← before]
    exact .turn listed (.stay _)
  | turn first rest ih => exact .turn first (ih before)

/-- Turns that lead somewhere lead to each of them, through it and on from it. -/
theorem Leads.around (leads : Leads choice (earlier ++ turn :: later) last) :
    Leads choice earlier turn.before ∧ turn.IsListed ∧ Leads turn.after later last := by
  obtain ⟨middle, first, second⟩ := leads.split
  cases second with
  | turn listed rest => exact ⟨first, listed, rest⟩

/-- None of the turns forgets the choice. -/
def Unforgotten (run : List Turn) : Prop := ∀ turn ∈ run, turn.call ≠ .forget

/-- A validator stays the chosen one until it is forgotten. -/
theorem Leads.last_eq (leads : Leads choice run last) (chosen : choice = some validator)
    (kept : Unforgotten run) : last = some validator := by
  induction leads with
  | stay => exact chosen
  | turn listed rest ih =>
    obtain ⟨here, later⟩ := List.forall_mem_cons.mp kept
    exact ih (listed.after_eq chosen here) later

/-- As long as no validator is needed, none is chosen. -/
theorem Leads.last_eq_none (leads : Leads choice run last) (unchosen : choice = none)
    (idle : ∀ turn ∈ run, turn.IsIdle) : last = none := by
  induction leads with
  | stay => exact unchosen
  | turn listed rest ih =>
    obtain ⟨here, later⟩ := List.forall_mem_cons.mp idle
    exact ih (listed.after_eq_none unchosen here) later

/-- The last turn that chose a validator, with no forgetting since. -/
theorem Leads.exists_chooser (leads : Leads choice run last) (chosen : last = some validator) :
    (choice = some validator ∧ Unforgotten run) ∨
      ∃ past chooser between host, run = past ++ chooser :: between ∧ Unforgotten between ∧
        chooser.Chooses host validator := by
  induction leads with
  | stay => exact .inl ⟨chosen, by simp [Unforgotten]⟩
  | @turn turn turns last listed rest ih =>
    -- what is chosen at the end was chosen in a later turn, in this one or before
    rcases ih chosen with ⟨after, kept⟩ | ⟨past, chooser, between, host, rfl, kept, chooses⟩
    · have unforgotten (other : turn.call ≠ .forget) : Unforgotten (turn :: turns) :=
        List.forall_mem_cons.mpr ⟨other, kept⟩
      cases listed with
      | forgets _ _ forgotten => exact absurd (after.symm.trans forgotten) (by simp)
      | holds call _ same | idles call _ _ _ same =>
        exact .inl ⟨same.symm.trans after, unforgotten (by rw [call]; simp)⟩
      | uses call _ goes =>
        rcases goes with ⟨_, relies⟩ | ⟨_, chooses⟩ | ⟨_, fails⟩
        · exact .inl ⟨relies.before.trans (relies.after.symm.trans after),
            unforgotten (by rw [call]; simp)⟩
        · cases after.symm.trans chooses.after
          exact .inr ⟨[], turn, turns, _, rfl, kept, chooses⟩
        · exact absurd (after.symm.trans fails.after) (by simp)
    · exact .inr ⟨turn :: past, chooser, between, host, rfl, kept, chooses⟩

/-- Without a chosen validator and with no need for one in between, the next use begins with a
selection. -/
theorem Leads.starts (leads : Leads choice (earlier ++ turn :: later) last)
    (unchosen : choice = none) (idle : ∀ other ∈ earlier, other.IsIdle) {wanted : Use}
    {host : String} (call : turn.call = .use wanted) (needed : wanted.probe? = some host) :
    turn.Starts host := by
  obtain ⟨first, listed, _⟩ := leads.around
  exact listed.starts_of_before (first.last_eq_none unchosen idle) call needed

/-- Whatever the world becomes and whatever host names are given: while it is not forgotten, a
validator that was chosen is the only one, and every use that needs one relies on it. One that is
chosen was selected at some time and not forgotten since; it is a native one just if its
configuration could be loaded and rejected the realm that cannot exist, as seen then. Profile files
are opened only in selections. After a selection that failed, and after forgetting, the next use
that needs a validator begins with a selection. Completing nothing, a text that is no service
principal name or a name that has a realm needs none. -/
theorem chosen_until_forgotten {σ : Type} (answer : Dialogue.Answerer world σ)
    (events : List (Event σ)) (state : σ) :
    let run := turns answer none events state
    (∀ earlier chooser middle turn later host validator,
      run = earlier ++ chooser :: (middle ++ turn :: later) → chooser.Chooses host validator →
        Unforgotten middle → (∀ host' other, ¬ turn.Chooses host' other) ∧
          ∀ wanted, turn.call = .use wanted → wanted.probe? ≠ none → turn.Relies validator) ∧
    (∀ earlier turn later validator, run = earlier ++ turn :: later →
      turn.after = some validator → ∃ past chooser between host,
        earlier ++ [turn] = past ++ chooser :: between ∧ Unforgotten between ∧
          chooser.Chooses host validator ∧ ∀ configuration,
            validator = .native configuration ↔ Trusts host configuration chooser.history) ∧
    (∀ turn ∈ run, (∀ happening ∈ turn.history, isOfSelection happening = false) ∨
      ∃ host selecting working outcome, turn.Starts host ∧ turn.history = selecting ++ working ∧
        Selects host selecting outcome ∧
        ∀ happening ∈ working, isOfSelection happening = false) ∧
    (∀ earlier turn middle next later wanted host,
      run = earlier ++ turn :: (middle ++ next :: later) →
        turn.call = .forget ∨ (∃ host' error, turn.Fails host' error) →
          (∀ other ∈ middle, other.IsIdle) → next.call = .use wanted →
            wanted.probe? = some host → next.Starts host) ∧
    ∀ turn ∈ run, ∀ spn allowCanonical, turn.call = .use (.complete spn allowCanonical) →
      (spn = none ∨ ∃ text, spn = some text ∧ (ServiceName.parse? text = none ∨
        ∃ name, ServiceName.parse? text = some name ∧ name.realm ≠ none)) →
      turn.history = [] ∧ turn.outcome = .ok (some (.name spn)) ∧ turn.after = turn.before := by
  intro run
  obtain ⟨last, leads⟩ := leads_turns answer none events state
  change Leads none run last at leads
  have listed : ∀ turn ∈ run, turn.IsListed := by
    intro turn member
    obtain ⟨earlier, later, split⟩ := List.append_of_mem member
    rw [split] at leads
    exact leads.around.2.1
  refine ⟨?once, ?chosen, fun turn member => (listed turn member).aside, ?again, ?needless⟩
  case once =>
    intro earlier chooser middle turn later host validator split chooses kept
    rw [split] at leads
    obtain ⟨first, turn_listed, _⟩ := leads.around.2.2.around
    have before := first.last_eq chooses.after kept
    refine ⟨fun host' other again => ?_, fun wanted => turn_listed.relies_of_before before⟩
    -- a second choice would have to begin with nothing chosen
    exact absurd (before.symm.trans again.before) (by simp)
  case chosen =>
    intro earlier turn later validator split after
    rw [split] at leads
    obtain ⟨first, turn_listed, _⟩ := leads.around
    rcases (first.concat rfl turn_listed).exists_chooser after with
      ⟨contradiction, _⟩ | ⟨past, chooser, between, host, split, kept, chooses⟩
    · cases contradiction
    obtain ⟨_, _, _, working, _, _, _, history_eq, selects, _⟩ := chooses.works
    refine ⟨past, chooser, between, host, split, kept, chooses, fun configuration => ?_⟩
    rw [history_eq]
    exact selects.native_iff working configuration
  case again =>
    intro earlier turn middle next later wanted host split left idle call needed
    rw [split] at leads
    obtain ⟨_, turn_listed, rest⟩ := leads.around
    have unchosen : turn.after = none := by
      rcases left with forgotten | ⟨host', error, fails⟩
      · exact turn_listed.after_forget forgotten
      · exact fails.after
    exact rest.starts unchosen idle call needed
  case needless =>
    intro turn member spn allowCanonical call needless
    exact (listed turn member).complete_idle call (Use.probe?_complete_eq_none_iff.mpr needless)

/-- A world with one profile file. -/
def oneProfile (bytes : List UInt8) : Simulation.World where
  files := [("/etc/krb5.conf", bytes)]

/-- A file that cannot be decoded keeps a validator from being selected. Once the file is a profile,
one is selected, and later its change to the worse does no harm. -/
example :
    let profile := "[realms]\n A.COM = \x7b\n  kdc = kdc\n \x7d\n".toUTF8.data.toList
    let events := [.call (.use (.get "db1")), .change fun _ => oneProfile profile,
      .call (.use (.validate "db2" "A.COM")), .change fun _ => oneProfile [255],
      .call (.use (.validate "db3" "A.COM"))]
    (turns (fun request tables => (tables.reply request, tables)) none events
        (oneProfile [255])).map (fun turn =>
          ((turn.history.filter isOfSelection).length, turn.after.isSome)) =
      [(2, false), (4, true), (0, true)] := by
  decide +kernel

end SignOn.Realm.Choice
