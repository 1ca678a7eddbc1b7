import SignOn.Proofs.Dialogue.Path
import SignOn.Proofs.Gss.Slots

/-!
# The parts of calls on a binding

Of what happens during a call, only the handles that the library hands out and those that it is
asked to release or delete matter here (`acquired`, `settled`). Most parts of a call are quiet; some
give a handle back whatever comes of it (`GivesBack`), and some obtain one (`Obtains`). Each is a
property of all paths through a part that goes from parts to the whole: through sequences
(`GivesBack.bind`, `Obtains.after`) and through failures of the mechanism (`GivesBack.guarded`,
`Obtains.guarded`).
-/

set_option autoImplicit false

namespace SignOn.Gss

open Dialogue (Happening)

variable {H : Handles} {α β : Type}

/-! ## What is seen of handles -/

/-- The handle that the library hands out. -/
def acquired? : Happening (library H) → Option (Handle H)
  | .asked (.credential _ _ _) (.ok handle) => some (.credential handle)
  | .asked (.credentialOf _) (.ok handle) => some (.credential handle)
  | .asked (.context _ _ _ _) (.ok handle) => some (.context handle)
  | _ => none

/-- The handle that the library is asked to release or delete, whether it does or not. -/
def settled? : Happening (library H) → Option (Handle H)
  | .asked (.release credential) _ => some (.credential credential)
  | .asked (.delete context) _ => some (.context context)
  | _ => none

/-- The handles acquired, in order. -/
def acquired (history : List (Happening (library H))) : List (Handle H) :=
  history.filterMap acquired?

/-- The handles given back, in order. -/
def settled (history : List (Happening (library H))) : List (Handle H) :=
  history.filterMap settled?

/-- What is acquired in two stretches is what is acquired in the one and then in the other. -/
@[simp] theorem acquired_append (earlier later : List (Happening (library H))) :
    acquired (earlier ++ later) = acquired earlier ++ acquired later := List.filterMap_append

/-- What is given back in two stretches is what is given back in the one and then in the other. -/
@[simp] theorem settled_append (earlier later : List (Happening (library H))) :
    settled (earlier ++ later) = settled earlier ++ settled later := List.filterMap_append

/-- The library raises failures of the mechanism only, and a principal that it reports can be
read. -/
def isOrderly : Happening (library H) → Bool
  | .asked (.nameOf _) (.ok (some name)) =>
    !name.toList.contains '@' || (Principal.parse name).isOk
  | .asked _ (.error error) => error.isA .mechanism
  | _ => true

/-- A request that neither acquires a handle nor gives one back. -/
def Request.isPlain : Request H → Bool
  | .credential _ _ _ | .credentialOf _ | .context _ _ _ _ | .release _ | .delete _ => false
  | _ => true

namespace Binding

/-- The slots of a binding. -/
def slots (binding : Binding H) : Slots H
  | .identity =>
    binding.identities.toList.map (fun identity => ⟨identity.handle.map .credential, true⟩)
  | .credential =>
    binding.credentials.toList.map
      (fun credential => ⟨credential.handle.map .credential, credential.ownsHandle⟩)
  | .context =>
    binding.contexts.toList.map (fun context => ⟨context.handle.map .context, true⟩)

/-- From one state of a binding to another handles are acquired and given back, while the slots stay
as they are. -/
structure Acts (before : Binding H) (history : List (Happening (library H)))
    (gained given : List (Handle H)) (after : Binding H) : Prop where
  acquired_eq : acquired history = gained
  settled_eq : settled history = given
  slots_eq : after.slots = before.slots
  availability_eq : after.availability = before.availability

/-- Two stretches in a row acquire and give back what each of them does. -/
theorem Acts.append {before middle after : Binding H}
    {earlier later : List (Happening (library H))} {gained given more further : List (Handle H)}
    (first : Acts before earlier gained given middle)
    (second : Acts middle later more further after) :
    Acts before (earlier ++ later) (gained ++ more) (given ++ further) after where
  acquired_eq := by rw [acquired_append, first.acquired_eq, second.acquired_eq]
  settled_eq := by rw [settled_append, first.settled_eq, second.settled_eq]
  slots_eq := second.slots_eq.trans first.slots_eq
  availability_eq := second.availability_eq.trans first.availability_eq

/-- Where nothing happens nothing is acquired, given back or changed. -/
theorem Acts.refl (binding : Binding H) : Acts binding [] [] [] binding := ⟨rfl, rfl, rfl, rfl⟩

/-! ## Parts that give back -/

/-- Whatever comes of it, a part of the binding gives these handles back and acquires none. -/
def GivesBack (work : Work H α) (handles : List (Handle H)) : Prop :=
  ∀ before history outcome after, (work.start before).Path history (outcome, after) →
    Acts before history [] handles after

/-- A part of the binding neither acquires a handle nor gives one back. -/
abbrev IsQuiet (work : Work H α) : Prop := GivesBack work []

/-- A value is quiet. -/
theorem isQuiet_pure (value : α) : IsQuiet (pure value : Work H α) := by
  intro before history outcome after path
  obtain ⟨rfl, _, rfl⟩ := Procedure.path_pure path
  exact .refl after

/-- An error is quiet. -/
theorem isQuiet_throw (error : Error) : IsQuiet (throw error : Work H α) := by
  intro before history outcome after path
  obtain ⟨rfl, _, rfl⟩ := Procedure.path_throw path
  exact .refl after

/-- To read the state is quiet. -/
theorem isQuiet_get : IsQuiet (get : Work H (Binding H)) := by
  intro before history outcome after path
  obtain ⟨rfl, same⟩ := Dialogue.path_done_iff.mp path
  cases same
  exact .refl _

/-- To log an event is quiet. -/
theorem isQuiet_log (event : LogEvent) : IsQuiet (Procedure.log event : Work H Unit) := by
  intro before history outcome after path
  obtain ⟨rfl, _, rfl⟩ := Procedure.path_log path
  exact ⟨rfl, rfl, rfl, rfl⟩

/-- To log an event of the binding is quiet. -/
theorem isQuiet_note (event : MechanismEvent) : IsQuiet (note event : Work H Unit) :=
  isQuiet_log _

/-- A request is quiet if it neither hands out a handle nor takes one back. -/
theorem isQuiet_ask {request : Request H} (plain : request.isPlain = true) :
    IsQuiet (ask request) := by
  intro before history outcome after path
  obtain ⟨rfl, rfl⟩ := Procedure.path_ask path
  cases request with
  | credential | credentialOf | context | release | delete => cases plain
  | _ => exact ⟨rfl, rfl, rfl, rfl⟩

/-- A result that is there already is quiet. -/
theorem isQuiet_liftM (result : Except Error α) : IsQuiet (liftM result : Work H α) := by
  cases result with
  | error error => exact isQuiet_throw error
  | ok value => exact isQuiet_pure value

/-- To release a credential gives it back, whatever the reply. -/
theorem givesBack_release (credential : H.Credential) :
    GivesBack (ask (.release credential)) [.credential credential] := by
  intro before history outcome after path
  obtain ⟨rfl, rfl⟩ := Procedure.path_ask path
  exact ⟨rfl, rfl, rfl, rfl⟩

/-- To delete a context gives it back, whatever the reply. -/
theorem givesBack_delete (context : H.Context) :
    GivesBack (ask (.delete context)) [.context context] := by
  intro before history outcome after path
  obtain ⟨rfl, rfl⟩ := Procedure.path_ask path
  exact ⟨rfl, rfl, rfl, rfl⟩

/-- A quiet part may follow. -/
theorem GivesBack.bind {first : Work H α} {next : α → Work H β} {handles : List (Handle H)}
    (givesBack : GivesBack first handles) (quiet : ∀ value, IsQuiet (next value)) :
    GivesBack (first >>= next) handles := by
  intro before history outcome after path
  rcases Procedure.path_bind path with
    ⟨error, path, _⟩ | ⟨value, middle, earlier, later, rfl, path, rest⟩
  · exact givesBack _ _ _ _ path
  · have both := (givesBack _ _ _ _ path).append (quiet _ _ _ _ _ rest)
    rwa [List.append_nil, List.append_nil] at both

/-- A function of its value does not change what a part gives back. -/
theorem GivesBack.map {work : Work H α} {handles : List (Handle H)} (f : α → β)
    (givesBack : GivesBack work handles) : GivesBack (f <$> work) handles := by
  intro before history outcome after path
  obtain ⟨result, _, path⟩ := Procedure.path_map path
  exact givesBack _ _ _ _ path

/-- How a part goes on after its result: a failure of the mechanism is answered. -/
def answered (onFailure : Error → Work H α) : Except Error α → Work H α
  | .ok value => pure value
  | .error error => if error.isA .mechanism then onFailure error else throw error

/-- A path through a part that uses the library leads through the part, and then through the answer
to its result. -/
theorem path_onMechanismFailure {onFailure : Error → Work H α} {part : Work H α}
    {before after : Binding H} {history : List (Happening (library H))} {outcome : Except Error α}
    (path : ((onMechanismFailure onFailure part).start before).Path history (outcome, after)) :
    ∃ result middle earlier later, history = earlier ++ later ∧
      (part.start before).Path earlier (result, middle) ∧
      ((answered onFailure result).start middle).Path later (outcome, after) := by
  rcases Procedure.path_bind path with
    ⟨_, path, _⟩ | ⟨result, middle, earlier, later, rfl, path, rest⟩
  · obtain ⟨_, contradiction, _⟩ := Procedure.path_attempt path
    cases contradiction
  · obtain ⟨_, same, path⟩ := Procedure.path_attempt path
    cases same
    refine ⟨result, middle, earlier, later, rfl, path, ?_⟩
    cases result <;> exact rest

/-- A failure may be answered by a quiet part. -/
theorem GivesBack.guarded {onFailure : Error → Work H α} {part : Work H α}
    {handles : List (Handle H)} (givesBack : GivesBack part handles)
    (quiet : ∀ error, IsQuiet (onFailure error)) :
    GivesBack (onMechanismFailure onFailure part) handles := by
  intro before history outcome after path
  obtain ⟨result, middle, earlier, later, rfl, path, rest⟩ := path_onMechanismFailure path
  have answer : IsQuiet (answered onFailure result) := by
    unfold answered
    split
    · exact isQuiet_pure _
    · split
      · exact quiet _
      · exact isQuiet_throw _
  have both := (givesBack _ _ _ _ path).append (answer _ _ _ _ rest)
  rwa [List.append_nil, List.append_nil] at both

/-! ## Parts that obtain a handle -/

/-- A part of the binding comes to a value with a handle that it acquires, or to an error without
one; it gives nothing back. -/
def Obtains (work : Work H α) (handle : α → Handle H) : Prop :=
  ∀ before history outcome after, (work.start before).Path history (outcome, after) →
    (∃ error, outcome = .error error ∧ Acts before history [] [] after) ∨
      ∃ value, outcome = .ok value ∧ Acts before history [handle value] [] after

/-- A part of the binding raises an error, quietly. -/
def Raises (work : Work H α) : Prop :=
  ∀ before history outcome after, (work.start before).Path history (outcome, after) →
    ∃ error, outcome = .error error ∧ Acts before history [] [] after

/-- An error is raised where it is thrown. -/
theorem raises_throw (error : Error) : Raises (throw error : Work H α) := by
  intro before history outcome after path
  obtain ⟨rfl, rfl, rfl⟩ := Procedure.path_throw path
  exact ⟨error, rfl, .refl after⟩

/-- A failure that is answered by errors only ends with an error. -/
theorem raises_answered {onFailure : Error → Work H α} (raises : ∀ error, Raises (onFailure error))
    (error : Error) : Raises (answered onFailure (.error error)) := by
  unfold answered
  simp only
  split
  · exact raises error
  · exact raises_throw error

/-- What raises errors only still does so after a quiet part. -/
theorem Raises.after {first : Work H α} {next : α → Work H β} (quiet : IsQuiet first)
    (raises : ∀ value, Raises (next value)) : Raises (first >>= next) := by
  intro before history outcome after path
  rcases Procedure.path_bind path with
    ⟨error, path, same⟩ | ⟨value, middle, earlier, later, rfl, path, rest⟩
  · exact ⟨error, same, quiet _ _ _ _ path⟩
  · obtain ⟨error, same, acts⟩ := raises _ _ _ _ _ rest
    exact ⟨error, same, (quiet _ _ _ _ path).append acts⟩

/-- A failure that is noted and passed on is an error. -/
theorem raises_noted (event : MechanismEvent) (error : Error) :
    Raises (do
      note event
      throw error : Work H α) :=
  Raises.after (isQuiet_note event) (fun _ => raises_throw error)

/-- What obtains a handle still does so after a quiet part. -/
theorem Obtains.after {first : Work H α} {next : α → Work H β} {handle : β → Handle H}
    (quiet : IsQuiet first) (obtains : ∀ value, Obtains (next value) handle) :
    Obtains (first >>= next) handle := by
  intro before history outcome after path
  rcases Procedure.path_bind path with
    ⟨error, path, same⟩ | ⟨value, middle, earlier, later, rfl, path, rest⟩
  · exact .inl ⟨error, same, quiet _ _ _ _ path⟩
  · rcases obtains _ _ _ _ _ rest with ⟨error, same, acts⟩ | ⟨result, same, acts⟩
    · exact .inl ⟨error, same, (quiet _ _ _ _ path).append acts⟩
    · exact .inr ⟨result, same, (quiet _ _ _ _ path).append acts⟩

/-- A function of the value that leaves the handle alone obtains the same handle. -/
theorem Obtains.map {first : Work H α} {handle : β → Handle H} (f : α → β)
    (obtains : Obtains first (fun value => handle (f value))) :
    Obtains (first >>= fun value => pure (f value)) handle := by
  intro before history outcome after path
  rcases Procedure.path_bind path with
    ⟨error, path, same⟩ | ⟨value, middle, earlier, later, rfl, path, rest⟩
  · rcases obtains _ _ _ _ path with ⟨_, _, acts⟩ | ⟨_, contradiction, _⟩
    · exact .inl ⟨error, same, acts⟩
    · cases contradiction
  · obtain ⟨rfl, rfl, rfl⟩ := Procedure.path_pure rest
    rw [List.append_nil]
    rcases obtains _ _ _ _ path with ⟨_, contradiction, _⟩ | ⟨_, same, acts⟩
    · cases contradiction
    · cases same
      exact .inr ⟨f value, rfl, acts⟩

/-- A part whose failures are answered by errors obtains what it obtained without an answer. -/
theorem Obtains.guarded {onFailure : Error → Work H α} {part : Work H α} {handle : α → Handle H}
    (obtains : Obtains part handle) (raises : ∀ error, Raises (onFailure error)) :
    Obtains (onMechanismFailure onFailure part) handle := by
  intro before history outcome after path
  obtain ⟨result, middle, earlier, later, rfl, path, rest⟩ := path_onMechanismFailure path
  rcases obtains _ _ _ _ path with ⟨error, rfl, acts⟩ | ⟨value, rfl, acts⟩
  · obtain ⟨raised, same, others⟩ := raises_answered raises error _ _ _ _ rest
    exact .inl ⟨raised, same, acts.append others⟩
  · obtain ⟨rfl, rfl, rfl⟩ := Procedure.path_pure rest
    rw [List.append_nil]
    exact .inr ⟨value, rfl, acts⟩

/-- A request whose reply is a handle obtains it. -/
theorem obtains_ask {request : Request H} {handle : Reply request → Handle H}
    (gains : ∀ reply, acquired? (.asked request (.ok reply)) = some (handle reply))
    (fails : ∀ error, acquired? (.asked request (.error error)) = none)
    (keeps : ∀ outcome, settled? (.asked request outcome) = none) :
    Obtains (ask request) handle := by
  intro before history outcome after path
  obtain ⟨rfl, rfl⟩ := Procedure.path_ask path
  have nothing : settled [Happening.asked request outcome] = [] :=
    List.filterMap_cons_none (keeps outcome)
  cases outcome with
  | error error =>
    exact .inl ⟨error, rfl, List.filterMap_cons_none (fails error), nothing, rfl, rfl⟩
  | ok reply =>
    exact .inr ⟨reply, rfl, List.filterMap_cons_some (gains reply), nothing, rfl, rfl⟩

/-- To acquire a credential obtains its handle. -/
theorem obtains_credential (name : Option H.Name) (mechanism : Option String)
    (store : Option CredentialStore) :
    Obtains (ask (.credential name mechanism store)) Handle.credential :=
  obtains_ask (fun _ => rfl) (fun _ => rfl) (fun _ => rfl)

/-- To make a credential of a password login obtains its handle. -/
theorem obtains_credentialOf (ticket : H.Ticket) :
    Obtains (ask (.credentialOf ticket)) Handle.credential :=
  obtains_ask (fun _ => rfl) (fun _ => rfl) (fun _ => rfl)

/-- To create a context obtains its handle. -/
theorem obtains_context (peer : H.Name) (credential : Option H.Credential) (flags : Flags)
    (mechanism : String) :
    Obtains (ask (.context peer credential flags mechanism)) Handle.context :=
  obtains_ask (fun _ => rfl) (fun _ => rfl) (fun _ => rfl)

end Binding

end SignOn.Gss
