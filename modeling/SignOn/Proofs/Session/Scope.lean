import SignOn.Proofs.Dialogue.Carrying
import SignOn.Proofs.Session.Resources

/-!
# Scopes of sessions

A scope runs a part of a program and releases the session at the end. Whatever the part does, the
scope ends as the part does, be it with a value or with an error, and gives back all that the
session holds by then (`run_scope`). What programs do with a session are calls, each of which may
depend on what came of the earlier ones (`Script`). Main statement: on a session that was opened,
and with orderly peers, the scope of a script gives back whatever was obtained in it, once and in
order (`scope_gives_back`).
-/

set_option autoImplicit false

namespace SignOn.Session

open Dialogue (Happening)

variable {P : Peers} {α : Type}

/-! ## The end of a scope -/

/-- A scope goes through its part, whatever comes of it, and then through a release. -/
theorem start_scope (part : Work P α) (session : Session P) :
    (scope part).start session = (part.start session).bind fun ending =>
      (release.start ending.2).bind fun released =>
        .done (released.1.bind fun _ => ending.1, released.2) := by
  unfold scope
  simp only [Procedure.start_bind, Procedure.start_attempt, Dialogue.bind_assoc,
    Dialogue.done_bind]
  congr 1
  funext ending
  congr 1
  funext released
  obtain ⟨outcome, middle⟩ := ending
  obtain ⟨result, after⟩ := released
  cases result with
  | error error => rfl
  | ok value => cases outcome <;> rfl

/-- A scope ends as its part does. Then the session is released, and all that it held after the part
is given back. -/
theorem run_scope {σ : Type} (answer : Dialogue.Answerer P.collaborators σ) (part : Work P α)
    (session : Session P) (state : σ) :
    let body := (part.start session).run answer state
    let run := ((scope part).start session).run answer state
    run.value = (body.value.1, body.value.2.emptied) ∧
      ∃ closing, run.history = body.history ++ closing ∧
        GivesBack body.value.2.emptied body.value.2.holdings closing := by
  intro body run
  obtain ⟨same, emptied, givesBack⟩ :=
    path_release (Dialogue.run_path answer (release.start body.value.2) body.state)
  have run_eq : run = ((part.start session).bind fun ending =>
      (release.start ending.2).bind fun released =>
        .done (released.1.bind fun _ => ending.1, released.2)).run answer state :=
    congrArg (Dialogue.run answer · state) (start_scope part session)
  simp only [Dialogue.run_bind, Dialogue.run_done, List.append_nil] at run_eq
  rw [run_eq]
  refine ⟨?_, _, rfl, givesBack⟩
  rw [Prod.mk.injEq]
  refine ⟨?_, emptied⟩
  show Except.bind _ _ = _
  rw [same]
  rfl

/-! ## Scripts -/

/-- The calls on a session, as requests. -/
abbrev calls : Interface := ⟨Call, fun _ => Option (Option Token × Bool)⟩

/-- What a program does with a session: calls, each of which may depend on what came of the earlier
ones, and a value or an error in the end. -/
abbrev Script (α : Type) : Type := Action calls α

/-- A script, carried out on a session. -/
def Script.work (script : Script α) : Work P α := Procedure.via Call.work script

/-- A session is sound, and its accounts are those of all that happened so far. -/
structure IsAccounted (session : Session P) (past : List (Happening P.collaborators)) : Prop where
  sound : session.IsSound
  accounts : session.Accounts past

/-- With orderly peers the accounts are kept through a script. -/
theorem Script.isAccounted {script : Script α} {session after : Session P}
    {past history : List (Happening P.collaborators)} {outcome : Except Error α}
    (path : (script.work.start session).Path history (outcome, after))
    (orderly : ∀ happening ∈ history, isOrderly happening = true)
    (accounted : IsAccounted session past) : IsAccounted after (past ++ history) := by
  refine Procedure.via_invariant ?logs ?calls path orderly accounted
  case logs =>
    intro session past event accounted
    refine ⟨accounted.sound, accounted.accounts.aside ?_ rfl id⟩
    simp [isWithin]
  case calls =>
    intro call session past history outcome after path orderly accounted
    have listed : Turn.IsListed ⟨call, session, history, outcome, after⟩ :=
      Turn.isListed accounted.sound path
    exact ⟨listed.isSound accounted.sound,
      listed.accounts accounted.sound orderly accounted.accounts⟩

/-- On a session that was opened, a scope ends as its script does, and the session holds nothing
after it. With orderly peers, whatever was obtained has then been given back, once and in order, and
no stage of coming by a context was tried twice. -/
theorem scope_gives_back {σ V : Type} (answer : Dialogue.Answerer P.collaborators σ)
    {settings : Settings} {host : String} {port : Int}
    {opening : List (Happening (Enrichment.collaborators V))} {session : Session P}
    (opens : (start settings host port : Action (Enrichment.collaborators V) (Session P)).run.Path
      opening (.ok session)) (script : Script α) (state : σ)
    (orderly : ∀ happening ∈ (((scope script.work).start session).run answer state).history,
      isOrderly happening = true) :
    let run := ((scope script.work).start session).run answer state
    run.value.1 = ((script.work.start session).run answer state).value.1 ∧
      run.value.2 = run.value.2.emptied ∧
      run.history.filterMap disposal? = settlement run.history ∧
      ∀ stage, (run.history.filterMap stage?).count stage ≤ 1 := by
  intro run
  obtain ⟨value, closing, history, givesBack⟩ := run_scope answer script.work session state
  change run.value = _ at value
  change run.history = _ at history
  change ∀ happening ∈ run.history, isOrderly happening = true at orderly
  rw [history, List.forall_mem_append] at orderly
  have opened : IsAccounted session [] := by
    rw [start_opens opens]
    exact ⟨isSound_opened _ _ _ _, accounts_opened _ _ _ _⟩
  have path := Dialogue.run_path answer (script.work.start session) state
  have left := Script.isAccounted path orderly.1 opened
  have closed := givesBack.accounts left.sound left.accounts
  rw [List.nil_append, ← history] at closed
  rw [value]
  exact ⟨rfl, rfl, closed.settled rfl, closed.once⟩

/-! A script that gives up after its first round: its error is that of the scope, although what was
obtained cannot be given back without errors either. -/

example :
    let script : Script Unit := do
      let _ ← Action.ask (I := calls) (.generate none)
      throw .noToken
    let session : Session namedPeers := opened "db" 1433 {} "MSSQLSvc/db:1433"
    let run := ((scope script.work).start session).run counting 0
    run.value.1 = .error .noToken ∧ run.history.filterMap disposal? =
      [.disposeCredential (0 : Nat), .disposeContext (0 : Nat), .logout "user@EXAMPLE.COM"] :=
  ⟨rfl, rfl⟩

end SignOn.Session
