import SignOn.Gss.Binding

/-!
# Who holds which handle

A binding hands out identities, credentials and contexts and keeps a slot for each: with the handle,
until it is given up, and with whether the handle is to be given back then. `Effect` lists what a
call can do to the slots. Main statements: the handles given back and those still owned never exceed
the handles acquired (`Effect.balanced`), and an item that was handed out keeps its slot until the
call that gives it up, which gives back what the slot owns (`Effect.slot_cases`).
-/

set_option autoImplicit false

namespace SignOn.Gss

variable {H : Handles}

/-! ## Slots -/

/-- A handle that is to be given back. -/
inductive Handle (H : Handles) where
  | credential (handle : H.Credential)
  | context (handle : H.Context)

/-- The kinds of what a binding hands out. -/
inductive Kind where
  | identity
  | credential
  | context
  deriving DecidableEq

/-- Something that was handed out, by its number among those of its kind. -/
structure Item where
  kind : Kind
  number : Nat
  deriving DecidableEq

/-- What is kept for an item. -/
structure Slot (H : Handles) where
  handle : Option (Handle H)
  /-- The handle is given back when the item is given up. -/
  owns : Bool

/-- The slots of all kinds. -/
abbrev Slots (H : Handles) : Type := Kind → List (Slot H)

/-- A slot owns a handle of a certain sort. -/
def Slot.holds (slot : Slot H) (sort : Handle H → Bool) : Bool :=
  slot.owns && slot.handle.any sort

namespace Slots

/-- The slot of an item. -/
def slot? (slots : Slots H) (item : Item) : Option (Slot H) := (slots item.kind)[item.number]?

/-- The handle of an item, unless it was given up. -/
def handle? (slots : Slots H) (item : Item) : Option (Handle H) :=
  (slots.slot? item).bind Slot.handle

/-- The next item of a kind. -/
def next (slots : Slots H) (kind : Kind) : Item := ⟨kind, (slots kind).length⟩

/-- Keeps a slot for the next item of a kind. -/
def push (slots : Slots H) (kind : Kind) (slot : Slot H) : Slots H := fun other =>
  if other = kind then slots kind ++ [slot] else slots other

/-- Changes the slot of an item. -/
def set (slots : Slots H) (item : Item) (slot : Slot H) : Slots H := fun other =>
  if other = item.kind then (slots item.kind).set item.number slot else slots other

/-- How many handles of a certain sort the slots own. -/
def owned (slots : Slots H) (sort : Handle H → Bool) : Nat :=
  (slots .identity).countP (·.holds sort) + (slots .credential).countP (·.holds sort) +
    (slots .context).countP (·.holds sort)

/-- What a slot is already, it can be set to. -/
theorem set_eq_self {slots : Slots H} {item : Item} {slot : Slot H}
    (present : slots.slot? item = some slot) : slots.set item slot = slots := by
  funext kind
  by_cases same : kind = item.kind
  · obtain ⟨inside, rfl⟩ := List.getElem?_eq_some_iff.mp present
    rw [set, if_pos same, List.set_getElem_self, same]
  · rw [set, if_neg same]

/-- A new item has the slot that was kept for it; those of other items stay. -/
theorem slot?_push (slots : Slots H) (kind : Kind) (slot : Slot H) (item : Item) :
    (slots.push kind slot).slot? item =
      if item = slots.next kind then some slot else slots.slot? item := by
  obtain ⟨other, number⟩ := item
  by_cases same : other = kind
  · subst same
    simp only [slot?, push, if_true, next, Item.mk.injEq, true_and, List.getElem?_append]
    rcases Nat.lt_trichotomy number (slots other).length with before | here | after
    · simp [before, Nat.ne_of_lt before]
    · simp [here]
    · have missing : (slots other)[number]? = none := List.getElem?_eq_none (by omega)
      have beyond : number - (slots other).length ≠ 0 := by omega
      simp [Nat.not_lt_of_gt after, Nat.ne_of_gt after, beyond]
  · simp [slot?, push, next, same]

/-- Changing the slot of an item leaves those of other items. -/
theorem slot?_set {slots : Slots H} {item : Item} {old : Slot H}
    (present : slots.slot? item = some old) (slot : Slot H) (other : Item) :
    (slots.set item slot).slot? other = if other = item then some slot else slots.slot? other := by
  obtain ⟨kind, number⟩ := item
  obtain ⟨otherKind, otherNumber⟩ := other
  obtain ⟨inside, _⟩ := List.getElem?_eq_some_iff.mp present
  by_cases same : otherKind = kind
  · subst same
    by_cases here : otherNumber = number
    · subst here
      simp [slot?, set, inside]
    · simp [slot?, set, here, Ne.symm here]
  · simp [slot?, set, same]

/-- A change of the slots of one kind changes the sum by what it does to this kind. -/
theorem owned_add_of_others (slots changed : Slots H) (kind : Kind)
    (others : ∀ other, other ≠ kind → changed other = slots other) (sort : Handle H → Bool) :
    changed.owned sort + (slots kind).countP (·.holds sort) =
      slots.owned sort + (changed kind).countP (·.holds sort) := by
  cases kind with
  | identity =>
    have credentials := others .credential (by decide)
    have contexts := others .context (by decide)
    rw [owned, owned, credentials, contexts]
    omega
  | credential =>
    have identities := others .identity (by decide)
    have contexts := others .context (by decide)
    rw [owned, owned, identities, contexts]
    omega
  | context =>
    have identities := others .identity (by decide)
    have credentials := others .credential (by decide)
    rw [owned, owned, identities, credentials]
    omega

/-- A new slot adds the handle that it holds. -/
theorem owned_push (slots : Slots H) (kind : Kind) (slot : Slot H) (sort : Handle H → Bool) :
    (slots.push kind slot).owned sort = slots.owned sort + (slot.holds sort).toNat := by
  have sum := owned_add_of_others slots (slots.push kind slot) kind
    (fun other apart => if_neg apart) sort
  have longer : (slots.push kind slot kind).countP (·.holds sort) =
      (slots kind).countP (·.holds sort) + (slot.holds sort).toNat := by
    cases held : slot.holds sort <;> simp [push, held]
  omega

/-- A changed slot adds the handle that it holds now, less the one that it held. -/
theorem owned_set {slots : Slots H} {item : Item} {old : Slot H}
    (present : slots.slot? item = some old) (slot : Slot H) (sort : Handle H → Bool) :
    (slots.set item slot).owned sort + (old.holds sort).toNat =
      slots.owned sort + (slot.holds sort).toNat := by
  obtain ⟨inside, here⟩ := List.getElem?_eq_some_iff.mp present
  have sum := owned_add_of_others slots (slots.set item slot) item.kind
    (fun other apart => if_neg apart) sort
  have same : slots.set item slot item.kind = (slots item.kind).set item.number slot := if_pos rfl
  have changed := List.countP_set (p := (·.holds sort)) (a := slot) inside
  rw [here, ← same] at changed
  have counted : old.holds sort = true → 0 < (slots item.kind).countP (·.holds sort) := by
    intro held
    exact List.countP_pos_iff.mpr ⟨old, here ▸ List.getElem_mem inside, held⟩
  cases held : old.holds sort <;> cases holds : slot.holds sort <;>
    simp only [held, holds, Bool.false_eq_true, if_false, if_true, forall_const, Bool.toNat_true,
      Bool.toNat_false] at changed counted ⊢ <;>
    omega

end Slots

/-! ## Calls and their effects -/

/-- A call on a binding by those who were handed something out. -/
inductive Call where
  | login (configuration : String)
  | acquireCredential (identity : IdentityRef) (mechanism : String)
  | createContext (flags : Flags) (peerName mechanism : String) (credential : Option CredentialRef)
  | step (context : ContextRef) (token : Option Token)
  /-- Logs an identity out, or disposes of a credential or a context. -/
  | giveUp (item : Item)

/-- What a call can do to the slots: the handles that it acquires, those that it gives back, and its
outcome, which may be an item that it hands out. -/
inductive Effect (slots : Slots H) : Call → List (Handle H) → List (Handle H) →
    Except Error (Option Item) → Slots H → Prop where
  | keeps {call : Call} {outcome : Except Error (Option Item)}
      (nothing : ∀ item, outcome ≠ .ok (some item))
      (empty : ∀ item, call = .giveUp item → slots.handle? item = none) :
      Effect slots call [] [] outcome slots
  | handsOut {call : Call} (kind : Kind) (handle : Handle H)
      (other : ∀ item, call ≠ .giveUp item) :
      Effect slots call [handle] [] (.ok (some (slots.next kind)))
        (slots.push kind ⟨some handle, true⟩)
  /-- A credential borrows the handle of its identity. -/
  | lends (identity : IdentityRef) (mechanism : String) (handle : Handle H)
      (held : slots.handle? ⟨.identity, identity⟩ = some handle) :
      Effect slots (.acquireCredential identity mechanism) [] []
        (.ok (some (slots.next .credential))) (slots.push .credential ⟨some handle, false⟩)
  | givesUp {outcome : Except Error (Option Item)} (item : Item) (handle : Handle H) (owns : Bool)
      (held : slots.slot? item = some ⟨some handle, owns⟩)
      (nothing : ∀ item, outcome ≠ .ok (some item)) :
      Effect slots (.giveUp item) [] (if owns then [handle] else []) outcome
        (slots.set item ⟨none, owns⟩)
  /-- A login that raises an error hands nothing out; it may have acquired a handle by then. -/
  | drops (configuration : String) (handle : Handle H) (settled : List (Handle H)) (error : Error)
      (atMost : settled = [handle] ∨ settled = []) :
      Effect slots (.login configuration) [handle] settled (.error error) slots

variable {slots after : Slots H} {call : Call} {acquired settled : List (Handle H)}
  {outcome : Except Error (Option Item)}

/-- Of every sort, the handles given back and those still owned are no more than those acquired. -/
def Balanced (slots : Slots H) (acquired settled : List (Handle H)) : Prop :=
  ∀ sort : Handle H → Bool, settled.countP sort + slots.owned sort ≤ acquired.countP sort

/-- No effect of a call unsettles the balance of handles. -/
theorem Effect.balanced (effect : Effect slots call acquired settled outcome after)
    {before given : List (Handle H)} (balanced : Balanced slots before given) :
    Balanced after (before ++ acquired) (given ++ settled) := by
  intro sort
  have soFar := balanced sort
  rw [List.countP_append, List.countP_append]
  cases effect with
  | keeps => simpa using soFar
  | handsOut kind handle =>
    have more := slots.owned_push kind ⟨some handle, true⟩ sort
    cases new : sort handle <;>
      simp [Slot.holds, new] at more ⊢ <;>
      omega
  | lends _ _ handle =>
    have more := slots.owned_push .credential ⟨some handle, false⟩ sort
    simp [Slot.holds] at more ⊢
    omega
  | givesUp item handle owns held =>
    have less := Slots.owned_set held ⟨none, owns⟩ sort
    cases owns <;> cases old : sort handle <;>
      simp [Slot.holds, old] at less ⊢ <;>
      omega
  | drops _ handle settled _ atMost =>
    rcases atMost with rfl | rfl <;> simp <;> omega

/-- What is given back was acquired, and only once if the handles acquired are distinct. -/
theorem Balanced.nodup (balanced : Balanced slots acquired settled) (fresh : acquired.Nodup) :
    settled.Nodup := by
  classical
  rw [List.nodup_iff_count] at fresh ⊢
  intro handle
  have once := fresh handle
  have within := balanced (· == handle)
  rw [List.count] at once ⊢
  omega

/-- An item keeps its slot, or is given up for the first time, with its handle if the slot owns it;
if it had been given up before, giving it up again gives nothing back. -/
theorem Effect.slot_cases (effect : Effect slots call acquired settled outcome after) {item : Item}
    {slot : Slot H} (present : slots.slot? item = some slot) :
    (after.slot? item = some slot ∧ (call = .giveUp item → slot.handle = none ∧ settled = [])) ∨
      ∃ handle, call = .giveUp item ∧ slot.handle = some handle ∧
        after.slot? item = some ⟨none, slot.owns⟩ ∧
        settled = if slot.owns then [handle] else [] := by
  -- an item that has a slot is not the next one of any kind
  have old : ∀ kind, item ≠ slots.next kind := by
    rintro kind rfl
    simp [Slots.slot?, Slots.next] at present
  cases effect with
  | keeps _ empty =>
    refine .inl ⟨present, fun same => ⟨?_, rfl⟩⟩
    have none := empty item same
    rwa [Slots.handle?, present] at none
  | handsOut kind handle other =>
    refine .inl ⟨?_, fun same => absurd same (other item)⟩
    rw [Slots.slot?_push, if_neg (old kind), present]
  | lends =>
    refine .inl ⟨?_, fun same => by cases same⟩
    rw [Slots.slot?_push, if_neg (old _), present]
  | givesUp other handle owns held =>
    by_cases same : item = other
    · subst same
      rw [held] at present
      cases present
      refine .inr ⟨handle, rfl, rfl, ?_, rfl⟩
      rw [Slots.slot?_set held, if_pos rfl]
    · refine .inl ⟨?_, ?_⟩
      · rw [Slots.slot?_set held, if_neg same, present]
      · rintro ⟨⟩
        exact absurd rfl same
  | drops => exact .inl ⟨present, fun same => by cases same⟩

/-- What is handed out was not there before and comes with a handle: a new one that it owns, or, for
a credential, the one of its identity. -/
theorem Effect.slot_of_handed_out {item : Item}
    (effect : Effect slots call acquired settled (.ok (some item)) after) :
    ∃ handle owns, after.slot? item = some ⟨some handle, owns⟩ ∧ slots.slot? item = none ∧
      settled = [] ∧ if owns then acquired = [handle] else
        acquired = [] ∧ item.kind = .credential ∧ ∃ identity mechanism,
          call = .acquireCredential identity mechanism ∧
          slots.handle? ⟨.identity, identity⟩ = some handle := by
  have new : ∀ kind, slots.slot? (slots.next kind) = none := by
    intro kind
    simp [Slots.slot?, Slots.next]
  cases effect with
  | keeps nothing => exact absurd rfl (nothing item)
  | handsOut kind handle =>
    refine ⟨handle, true, ?_, new kind, rfl, rfl⟩
    rw [Slots.slot?_push, if_pos rfl]
  | lends identity mechanism handle held =>
    refine ⟨handle, false, ?_, new _, rfl, rfl, rfl, identity, mechanism, rfl, held⟩
    rw [Slots.slot?_push, if_pos rfl]
  | givesUp _ _ _ _ nothing => exact absurd rfl (nothing item)

/-- An item is there only if it was there before or is handed out. -/
theorem Effect.slot_isSome (effect : Effect slots call acquired settled outcome after) {item : Item}
    (present : (after.slot? item).isSome) :
    (slots.slot? item).isSome ∨ outcome = .ok (some item) := by
  cases effect with
  | keeps | drops => exact .inl present
  | handsOut | lends =>
    rw [Slots.slot?_push] at present
    split at present
    next same => exact .inr (by rw [same])
    next => exact .inl present
  | givesUp other _ _ held =>
    rw [Slots.slot?_set held] at present
    split at present
    next same => exact .inl (by rw [same, held]; rfl)
    next => exact .inl present

end SignOn.Gss
