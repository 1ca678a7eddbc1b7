import Mathlib.Data.List.Induction
import SignOn.Login

/-!
# What a registry of login entries answers

Entries are registered, unregistered and looked up in any order. A look-up may install the default
entry, which changes the registry; what is answered does not show it. A registry agrees with what
the operations so far registered, up to that entry (`Registry.Agrees`), and every operation keeps it
so (`Registry.Agrees.obey`). Main statement: a look-up answers the entry registered last under its
name, if it still stands, and the usual answer otherwise; nothing but what registers or unregisters
this name matters (`answers_last_registered`).
-/

set_option autoImplicit false

namespace SignOn.Login

/-! ## Operations -/

/-- What is done with a registry. -/
inductive Operation where
  | register (name : String) (entry : Entry)
  | unregister (name : String)
  | lookUp (name : String)

/-- What comes of an operation. -/
inductive Reply where
  | done
  | found (entry : Option Entry)

namespace Registry

/-- The registry after an operation. -/
def obey (registry : Registry) : Operation → Registry
  | .register name entry => registry.register name entry
  | .unregister name => registry.unregister name
  | .lookUp name => (registry.lookUp name).2

/-- What a registry answers to an operation. -/
def reply (registry : Registry) : Operation → Reply
  | .register _ _ | .unregister _ => .done
  | .lookUp name => .found (registry.lookUp name).1

/-- The registry after some operations, one after the other. -/
def after (registry : Registry) (operations : List Operation) : Registry :=
  operations.foldl obey registry

/-- The replies to some operations, in order. -/
def replies : Registry → List Operation → List Reply
  | _, [] => []
  | registry, operation :: rest =>
    registry.reply operation :: replies (registry.obey operation) rest

/-- An operation is answered by the registry that the operations before it leave. -/
theorem getElem?_replies (registry : Registry) (earlier : List Operation) (operation : Operation)
    (later : List Operation) :
    (registry.replies (earlier ++ operation :: later))[earlier.length]? =
      some ((registry.after earlier).reply operation) := by
  induction earlier generalizing registry with
  | nil => rfl
  | cons first earlier ih => exact ih (registry.obey first)

/-! ## Stored entries -/

/-- Unregistering a name takes its own entry away, and no other. -/
@[simp] theorem stored?_unregister (registry : Registry) (name other : String) :
    (registry.unregister name).stored? other =
      if other = name then none else registry.stored? other := by
  rw [stored?, unregister, List.find?_filter]
  by_cases same : other = name
  · rw [if_pos same, Option.map_eq_none_iff, List.find?_eq_none]
    simp [same]
  · rw [if_neg same, stored?]
    congr 2
    funext entry
    by_cases here : entry.1 = other <;> simp [here, same]

/-- Registering an entry changes what is stored under its name, and under no other. -/
@[simp] theorem stored?_register (registry : Registry) (name other : String) (entry : Entry) :
    (registry.register name entry).stored? other =
      if other = name then some entry else registry.stored? other := by
  by_cases same : other = name
  · simp [stored?, register, same]
  · have left := stored?_unregister registry name other
    rw [if_neg same] at left ⊢
    rw [← left]
    simp [stored?, register, Ne.symm same]

/-- The answer where nothing is registered under a name. -/
def usual? (name : String) : Option Entry :=
  if name = defaultLogin then some .ticketCache else none

/-- A look-up answers what is stored, or what is usual. -/
theorem lookUp_fst (registry : Registry) (name : String) :
    (registry.lookUp name).1 = (registry.stored? name).or (usual? name) := by
  unfold lookUp installs usual?
  cases registry.stored? name <;> by_cases usual : name = defaultLogin <;> simp [usual]

/-- A look-up leaves stored what it answers, and under other names what was there. -/
theorem stored?_lookUp_snd (registry : Registry) (name other : String) :
    (registry.lookUp name).2.stored? other =
      if other = name then (registry.lookUp name).1 else registry.stored? other := by
  unfold lookUp
  split
  · simp
  · split
    · next same => rw [same]
    · rfl

end Registry

/-! ## What is registered -/

namespace Operation

/-- An operation registers or unregisters a name. -/
def changes (name : String) : Operation → Bool
  | .register other _ | .unregister other => other == name
  | .lookUp _ => false

/-- What is registered under a name after an operation, given what was before it. -/
def standing? (name : String) (held : Option Entry) : Operation → Option Entry
  | .register other entry => if other = name then some entry else held
  | .unregister other => if other = name then none else held
  | .lookUp _ => held

/-- An operation that does not change a name leaves what is registered under it. -/
theorem standing?_of_not_changes {name : String} {operation : Operation}
    (unchanged : operation.changes name = false) (held : Option Entry) :
    operation.standing? name held = held := by
  cases operation with
  | register other entry | unregister other =>
    have different : other ≠ name := by simpa [changes] using unchanged
    simp [standing?, different]
  | lookUp other => rfl

/-- An operation that changes a name leaves an entry under it exactly if it registers the entry. -/
theorem standing?_eq_some_iff {name : String} {operation : Operation}
    (changed : operation.changes name = true) (held : Option Entry) (entry : Entry) :
    operation.standing? name held = some entry ↔ operation = .register name entry := by
  cases operation with
  | register other given =>
    have same : other = name := by simpa [changes] using changed
    simp [standing?, same]
  | unregister other =>
    have same : other = name := by simpa [changes] using changed
    simp [standing?, same]
  | lookUp other => cases changed

end Operation

/-- What some operations leave registered under a name. -/
def standing? (operations : List Operation) (name : String) : Option Entry :=
  operations.foldl (Operation.standing? name) none

/-- An entry was registered under a name, and the name neither registered nor unregistered since. -/
def IsRegistered (operations : List Operation) (name : String) (entry : Entry) : Prop :=
  ∃ earlier later, operations = earlier ++ .register name entry :: later ∧
    ∀ operation ∈ later, operation.changes name = false

/-- The last operation decides, given what those before it leave. -/
theorem standing?_concat (operations : List Operation) (operation : Operation) (name : String) :
    standing? (operations ++ [operation]) name =
      operation.standing? name (standing? operations name) := by
  simp [standing?]

/-- The last operation registers an entry, or it leaves the name alone and the entry stands. -/
theorem isRegistered_concat_iff {operations : List Operation} {last : Operation} {name : String}
    {entry : Entry} :
    IsRegistered (operations ++ [last]) name entry ↔
      last = .register name entry ∨
        last.changes name = false ∧ IsRegistered operations name entry := by
  constructor
  · rintro ⟨earlier, later, split, unchanged⟩
    rcases List.eq_nil_or_concat later with rfl | ⟨between, final, rfl⟩
    · exact .inl (List.cons.inj (List.append_inj' split rfl).2).1
    · rw [List.concat_eq_append, ← List.cons_append, ← List.append_assoc] at split
      rw [List.concat_eq_append, List.forall_mem_append, List.forall_mem_singleton] at unchanged
      obtain ⟨rfl, same⟩ := List.append_inj' split rfl
      cases same
      exact .inr ⟨unchanged.2, earlier, between, rfl, unchanged.1⟩
  · rintro (rfl | ⟨alone, earlier, later, rfl, unchanged⟩)
    · exact ⟨operations, [], rfl, nofun⟩
    · refine ⟨earlier, later ++ [last], by simp, ?_⟩
      exact List.forall_mem_append.mpr ⟨unchanged, List.forall_mem_singleton.mpr alone⟩

/-- What stands under a name is what was registered under it last. -/
theorem standing?_eq_some_iff {operations : List Operation} {name : String} {entry : Entry} :
    standing? operations name = some entry ↔ IsRegistered operations name entry := by
  induction operations using List.reverseRecOn with
  | nil => simp [standing?, IsRegistered]
  | append_singleton operations last ih =>
    rw [standing?_concat, isRegistered_concat_iff, ← ih]
    cases changed : last.changes name with
    | true => simp [Operation.standing?_eq_some_iff changed]
    | false =>
      rw [Operation.standing?_of_not_changes changed]
      constructor
      · exact fun held => .inr ⟨rfl, held⟩
      · rintro (rfl | ⟨_, held⟩)
        · simp [Operation.changes] at changed
        · exact held

/-- Only what changes a name decides what stands under it. -/
theorem standing?_filter (operations : List Operation) (name : String) :
    standing? (operations.filter (Operation.changes name)) name = standing? operations name := by
  rw [standing?, standing?, List.foldl_filter]
  congr 1
  funext held operation
  cases changed : operation.changes name with
  | true => rw [if_pos rfl]
  | false => simp [Operation.standing?_of_not_changes changed]

/-! ## Agreement -/

namespace Registry

/-- A registry stores what is registered; where nothing is, it may store what is usual. -/
def Agrees (registry : Registry) (registered : String → Option Entry) : Prop :=
  ∀ name, registry.stored? name = registered name ∨
    registered name = none ∧ registry.stored? name = usual? name

/-- An empty registry agrees with nothing having been registered. -/
theorem agrees_empty : Agrees {} fun _ => none := fun _ => .inl rfl

/-- A registry that agrees answers what is registered, or what is usual. -/
theorem Agrees.lookUp_fst {registry : Registry} {registered : String → Option Entry}
    (agrees : registry.Agrees registered) (name : String) :
    (registry.lookUp name).1 = (registered name).or (usual? name) := by
  rw [Registry.lookUp_fst]
  rcases agrees name with stored | ⟨unregistered, stored⟩
  · rw [stored]
  · rw [stored, unregistered, Option.or_self, Option.none_or]

/-- An operation keeps a registry in agreement. -/
theorem Agrees.obey {registry : Registry} {registered : String → Option Entry}
    (agrees : registry.Agrees registered) (operation : Operation) :
    (registry.obey operation).Agrees fun name => operation.standing? name (registered name) := by
  intro name
  cases operation with
  | register other entry =>
    by_cases same : name = other
    · simp [Registry.obey, Operation.standing?, same]
    · simpa [Registry.obey, Operation.standing?, same, Ne.symm same] using agrees name
  | unregister other =>
    by_cases same : name = other
    · simp [Registry.obey, Operation.standing?, same]
    · simpa [Registry.obey, Operation.standing?, same, Ne.symm same] using agrees name
  | lookUp other =>
    simp only [Registry.obey, Operation.standing?, stored?_lookUp_snd]
    by_cases same : name = other
    · subst same
      rw [if_pos rfl, agrees.lookUp_fst]
      cases registered name with
      | none => exact .inr ⟨rfl, rfl⟩
      | some entry => exact .inl rfl
    · rw [if_neg same]
      exact agrees name

/-- After any operations a new registry agrees with what they registered. -/
theorem agrees_after (operations : List Operation) :
    (after {} operations).Agrees (standing? operations) := by
  induction operations using List.reverseRecOn with
  | nil => exact agrees_empty
  | append_singleton operations last ih =>
    have next := ih.obey last
    simp only [← standing?_concat] at next
    rwa [after, List.foldl_append]

end Registry

/-- In any sequence of operations on a new registry, a look-up answers the entry that was registered
last under its name, if the name was not unregistered since. Otherwise it answers the entry of the
ticket cache for the default name, and nothing for any other name. Earlier look-ups and operations
on other names make no difference: the answer is the same wherever the same operations, in the same
order, registered and unregistered the name. -/
theorem answers_last_registered (earlier : List Operation) (name : String)
    (later : List Operation) :
    ∃ answer, (Registry.replies {} (earlier ++ .lookUp name :: later))[earlier.length]? =
        some (.found answer) ∧
      (∀ entry, IsRegistered earlier name entry → answer = some entry) ∧
      ((∀ entry, ¬ IsRegistered earlier name entry) →
        answer = if name = defaultLogin then some .ticketCache else none) ∧
      ∀ others further,
        others.filter (Operation.changes name) = earlier.filter (Operation.changes name) →
          (Registry.replies {} (others ++ .lookUp name :: further))[others.length]? =
            some (.found answer) := by
  have answered : ∀ operations further,
      (Registry.replies {} (operations ++ .lookUp name :: further))[operations.length]? =
        some (.found ((standing? operations name).or (Registry.usual? name))) := by
    intro operations further
    rw [Registry.getElem?_replies, Registry.reply, (Registry.agrees_after operations).lookUp_fst]
  refine ⟨_, answered earlier later, ?registered, ?unregistered, ?others⟩
  case registered =>
    intro entry registered
    rw [standing?_eq_some_iff.mpr registered, Option.some_or]
  case unregistered =>
    intro unregistered
    cases held : standing? earlier name with
    | none => rfl
    | some entry => exact absurd (standing?_eq_some_iff.mp held) (unregistered entry)
  case others =>
    intro others further same
    rw [answered, ← standing?_filter others, same, standing?_filter]

/-- The default entry comes back when the application unregisters its own. -/
example (entry : Entry) :
    Registry.replies {} [.lookUp defaultLogin, .register defaultLogin entry, .lookUp defaultLogin,
        .unregister defaultLogin, .lookUp defaultLogin] =
      [.found (some .ticketCache), .done, .found (some entry), .done,
        .found (some .ticketCache)] := by
  rfl

end SignOn.Login
