import SignOn.Profile.Native

/-!
# Lists of items by key

The sections of a profile and the relations of a section are lists of items by key. Both are built
by changing the item of one key after the other (`alter`), where a new key comes last. Main
statements: what each key is left with (`item?_alter`), and that items added one by one are
collected by key, keys in order of first appearance and the items of a key in order
(`grouped_concat`).
-/

set_option autoImplicit false

namespace SignOn.Keyed

variable {α β γ ι : Type}

/-- The keys, in order. -/
def keys (entries : List (String × β)) : List String := entries.map (·.1)

/-- The item of a key. -/
def item? (entries : List (String × β)) (key : String) : Option β :=
  (entries.find? (fun entry => entry.1 == key)).map (·.2)

/-- A key is present. -/
def has (entries : List (String × β)) (key : String) : Bool :=
  entries.any (fun entry => entry.1 == key)

/-- Changes the item of a key; a new key comes last, with a change of the item `fresh`. -/
def alter (key : String) (change : β → β) (fresh : β) : List (String × β) → List (String × β)
  | [] => [(key, change fresh)]
  | entry :: rest =>
    if entry.1 == key then (entry.1, change entry.2) :: rest
    else entry :: alter key change fresh rest

/-! ## Items and keys -/

/-- The item of a key is in the first entry if that has the key, or else further on. -/
theorem item?_cons (entry : String × β) (rest : List (String × β)) (key : String) :
    item? (entry :: rest) key = if entry.1 = key then some entry.2 else item? rest key := by
  by_cases same : entry.1 = key <;> simp [item?, same]

/-- A key is present if it is the first one or present further on. -/
theorem has_cons (entry : String × β) (rest : List (String × β)) (key : String) :
    has (entry :: rest) key = (entry.1 == key || has rest key) := rfl

/-- The keys that are present are those listed. -/
theorem has_iff_mem_keys {entries : List (String × β)} {key : String} :
    has entries key = true ↔ key ∈ keys entries := by
  simp [has, keys]

/-- Just the keys that are not present have no item. -/
theorem item?_eq_none_iff {entries : List (String × β)} {key : String} :
    item? entries key = none ↔ has entries key = false := by
  simp [item?, has]

/-- Of two lists in a row, the first one that has a key decides on its item. -/
theorem item?_append (first second : List (String × β)) (key : String) :
    item? (first ++ second) key = (item? first key).or (item? second key) := by
  simp [item?, List.find?_append, Option.map_or]

/-- A key is present in two lists in a row if it is in one of them. -/
theorem has_append (first second : List (String × β)) (key : String) :
    has (first ++ second) key = (has first key || has second key) := by
  simp [has]

/-- A change of every item that leaves the keys alone. -/
theorem item?_map (f : String × β → γ) (entries : List (String × β)) (key : String) :
    item? (entries.map (fun entry => (entry.1, f entry))) key =
      (item? entries key).map (fun item => f (key, item)) := by
  induction entries with
  | nil => rfl
  | cons entry rest ih =>
    rw [List.map_cons, item?_cons, item?_cons, ih]
    by_cases same : entry.1 = key
    · simp [← same]
    · simp [same]

/-- A change of the items leaves the keys as they are. -/
theorem has_map (f : String × β → γ) (entries : List (String × β)) (key : String) :
    has (entries.map (fun entry => (entry.1, f entry))) key = has entries key := by
  simp [has, Function.comp_def]

/-- What a filter that goes by the keys leaves of a key. -/
theorem item?_filter (keeps : String → Bool) (entries : List (String × β)) (key : String) :
    item? (entries.filter (fun entry => keeps entry.1)) key =
      if keeps key then item? entries key else none := by
  induction entries with
  | nil => cases keeps key <;> rfl
  | cons entry rest ih =>
    rw [item?_cons]
    by_cases same : entry.1 = key
    · by_cases kept : keeps key
      · simp [same, kept, item?_cons]
      · simp [same, kept, ih]
    · by_cases kept : keeps entry.1 <;> simp [same, kept, item?_cons, ih]

/-- Where entries are kept by their keys, a key is present if it was and is kept. -/
theorem has_filter (keeps : String → Bool) (entries : List (String × β)) (key : String) :
    has (entries.filter (fun entry => keeps entry.1)) key = (keeps key && has entries key) := by
  have found := item?_filter keeps entries key
  cases kept : keeps key with
  | false =>
    rw [kept] at found
    simpa using item?_eq_none_iff.mp found
  | true =>
    simp only [kept, if_true] at found
    rw [Bool.true_and, Bool.eq_iff_iff, ← Bool.not_eq_false, ← Bool.not_eq_false,
      ← item?_eq_none_iff, ← item?_eq_none_iff, found]

/-- Of distinct keys, the item of an entry is the item of its key. -/
theorem item?_of_mem {entries : List (String × β)} (distinct : (keys entries).Nodup)
    {entry : String × β} (member : entry ∈ entries) : item? entries entry.1 = some entry.2 := by
  induction entries with
  | nil => cases member
  | cons first rest ih =>
    rw [keys, List.map_cons, List.nodup_cons] at distinct
    rw [item?_cons]
    rcases List.mem_cons.mp member with rfl | later
    · simp
    · have other : first.1 ≠ entry.1 := by
        intro same
        apply distinct.1
        rw [same]
        exact List.mem_map_of_mem later
      simp [other, ih distinct.2 later]

/-! ## Changing the item of a key -/

/-- The key is left with the changed item, and every other key with its own. -/
theorem item?_alter (key : String) (change : β → β) (fresh : β) (entries : List (String × β))
    (other : String) :
    item? (alter key change fresh entries) other =
      if key = other then some (change ((item? entries key).getD fresh))
      else item? entries other := by
  induction entries with
  | nil => by_cases same : key = other <;> simp [alter, item?, same]
  | cons entry rest ih =>
    rw [alter, item?_cons, item?_cons]
    by_cases here : entry.1 = key
    · by_cases same : key = other <;> simp [here, same, item?_cons]
    · rw [if_neg (by simpa using here), if_neg here, item?_cons, ih]
      by_cases there : entry.1 = other
      · have apart : key ≠ other := by
          rintro rfl
          exact here there
        simp [there, apart]
      · simp [there]

/-- A key that is new comes last. -/
theorem keys_alter (key : String) (change : β → β) (fresh : β) (entries : List (String × β)) :
    keys (alter key change fresh entries) =
      if has entries key then keys entries else keys entries ++ [key] := by
  induction entries with
  | nil => rfl
  | cons entry rest ih =>
    rw [alter, has_cons]
    by_cases here : entry.1 = key
    · simp [here, keys]
    · cases present : has rest key <;> simp_all [keys]

/-- The only key that an alteration can add is the altered one. -/
theorem has_alter (key : String) (change : β → β) (fresh : β) (entries : List (String × β))
    (other : String) :
    has (alter key change fresh entries) other = (key == other || has entries other) := by
  have found := item?_alter key change fresh entries other
  by_cases same : key = other
  · rw [if_pos same] at found
    have present : has (alter key change fresh entries) other ≠ false := by
      rw [ne_eq, ← item?_eq_none_iff, found]
      simp
    simpa [same] using present
  · rw [if_neg same] at found
    have alike :
        has (alter key change fresh entries) other = false ↔ has entries other = false := by
      rw [← item?_eq_none_iff, ← item?_eq_none_iff, found]
    rw [beq_false_of_ne same, Bool.false_or, Bool.eq_iff_iff, ← Bool.not_eq_false, alike,
      Bool.not_eq_false]

/-- An alteration keeps the keys distinct. -/
theorem nodup_keys_alter {key : String} {change : β → β} {fresh : β}
    {entries : List (String × β)} (distinct : (keys entries).Nodup) :
    (keys (alter key change fresh entries)).Nodup := by
  rw [keys_alter]
  cases present : has entries key with
  | true => exact distinct
  | false =>
    have absent : key ∉ keys entries := by
      rw [← has_iff_mem_keys, present]
      simp
    simpa [List.nodup_append] using ⟨distinct, fun other member same => absent (same ▸ member)⟩

/-- In two lists one after the other, the key is changed in the first that has it. -/
theorem alter_append (key : String) (change : β → β) (fresh : β)
    (first second : List (String × β)) :
    alter key change fresh (first ++ second) =
      if has first key then alter key change fresh first ++ second
      else first ++ alter key change fresh second := by
  induction first with
  | nil => rfl
  | cons entry rest ih =>
    rw [List.cons_append, alter, alter, has_cons, ih]
    by_cases here : entry.1 = key
    · simp [here]
    · cases present : has rest key <;> simp [here]

/-- A filter that keeps the key keeps its change. -/
theorem filter_alter (keeps : String → Bool) (key : String) (change : β → β) (fresh : β)
    (entries : List (String × β)) :
    (alter key change fresh entries).filter (fun entry => keeps entry.1) =
      if keeps key then alter key change fresh (entries.filter (fun entry => keeps entry.1))
      else entries.filter (fun entry => keeps entry.1) := by
  induction entries with
  | nil => cases kept : keeps key <;> simp [alter, kept]
  | cons entry rest ih =>
    rw [alter]
    by_cases here : entry.1 = key
    · cases kept : keeps key <;> simp [here, kept, alter]
    · cases kept : keeps key <;> cases keptEntry : keeps entry.1 <;>
        simp_all [alter]

/-- A change of the changed items is a change of the items that they come from. -/
theorem map_alter (f : β → γ) (key : String) {change : β → β} {change' : γ → γ}
    (commutes : ∀ item, f (change item) = change' (f item)) (fresh : β)
    (entries : List (String × β)) :
    (alter key change fresh entries).map (fun entry => (entry.1, f entry.2)) =
      alter key change' (f fresh) (entries.map (fun entry => (entry.1, f entry.2))) := by
  induction entries with
  | nil => simp [alter, commutes]
  | cons entry rest ih =>
    by_cases here : entry.1 = key
    · simp [alter, here, commutes]
    · simp [alter, here, ih]

/-- Two changes of a key are one change. -/
theorem alter_alter (key : String) (first second : β → β) (fresh : β)
    (entries : List (String × β)) :
    alter key second fresh (alter key first fresh entries) =
      alter key (fun item => second (first item)) fresh entries := by
  induction entries with
  | nil => simp [alter]
  | cons entry rest ih =>
    by_cases here : entry.1 = key
    · simp [alter, here]
    · simp [alter, here, ih]

/-- A change that leaves the item of a key as it is leaves all as it is. -/
theorem alter_eq_self {key : String} {change : β → β} {fresh : β} {entries : List (String × β)}
    (present : has entries key = true)
    (unchanged : ∀ item ∈ item? entries key, change item = item) :
    alter key change fresh entries = entries := by
  induction entries with
  | nil => cases present
  | cons entry rest ih =>
    rw [has_cons] at present
    rw [item?_cons] at unchanged
    by_cases here : entry.1 = key
    · have same : change entry.2 = entry.2 := unchanged _ (by simp [here])
      rw [alter, if_pos (by simpa using here), same]
    · rw [beq_false_of_ne here, Bool.false_or] at present
      simp only [here, if_false] at unchanged
      simp [alter, here, ih present unchanged]

/-- In a list of items whose keys are distinct, the change of a key is a change of one item. -/
theorem alter_map {name : ι → String} {item : ι → β} {key : String} {change : β → β} {fresh : β}
    {list : List ι} (distinct : (list.map name).Nodup) (member : key ∈ list.map name) :
    alter key change fresh (list.map (fun i => (name i, item i))) =
      list.map (fun i => (name i, if name i = key then change (item i) else item i)) := by
  induction list with
  | nil => cases member
  | cons first rest ih =>
    rw [List.map_cons, List.nodup_cons] at distinct
    by_cases here : name first = key
    · have others : ∀ i ∈ rest, name i ≠ key := by
        intro i inside same
        apply distinct.1
        rw [here, ← same]
        exact List.mem_map_of_mem inside
      have kept : rest.map (fun i => (name i, if name i = key then change (item i) else item i)) =
          rest.map (fun i => (name i, item i)) := by
        apply List.map_congr_left
        intro i inside
        simp [others i inside]
      simp [alter, here, kept]
    · have later : key ∈ rest.map name := by
        rcases List.mem_cons.mp member with same | later
        · exact absurd same.symm here
        · exact later
      simp [alter, here, ih distinct.2 later]

/-- An altered key that is not present comes last. -/
theorem alter_of_not_has {key : String} {change : β → β} {fresh : β} {entries : List (String × β)}
    (absent : has entries key = false) :
    alter key change fresh entries = entries ++ [(key, change fresh)] := by
  have last := alter_append key change fresh entries []
  simpa [absent, alter] using last

/-! ## Collecting items by key -/

open Profile (distinct)

/-- To remove repetitions leaves the items that there are. -/
theorem mem_distinct_iff {item : String} {list : List String} :
    item ∈ distinct list ↔ item ∈ list := by
  induction list with
  | nil => rfl
  | cons first rest ih =>
    simp only [distinct, List.mem_cons, List.mem_filter, ih, bne_iff_ne, ne_eq]
    grind

/-- Where repetitions are removed there are none. -/
theorem nodup_distinct (list : List String) : (distinct list).Nodup := by
  induction list with
  | nil => exact .nil
  | cons first rest ih =>
    rw [distinct, List.nodup_cons]
    exact ⟨by simp, ih.filter _⟩

/-- A repetition adds nothing, and a new item comes last. -/
theorem distinct_concat (list : List String) (item : String) :
    distinct (list ++ [item]) =
      if item ∈ list then distinct list else distinct list ++ [item] := by
  induction list with
  | nil => rfl
  | cons first rest ih =>
    rw [List.cons_append, distinct, distinct, ih]
    by_cases same : item = first
    · by_cases later : item ∈ rest <;> simp_all
    · by_cases later : item ∈ rest <;> simp [later, same, List.filter_append]

/-- Two lists in a row, without repetitions, are the first one and what is new in the second. -/
theorem distinct_append (first second : List String) :
    distinct (first ++ second) =
      distinct first ++ (distinct second).filter (fun item => !first.contains item) := by
  induction first with
  | nil => exact (List.filter_eq_self.mpr fun _ _ => rfl).symm
  | cons item rest ih =>
    have later : ∀ other : String,
        (other != item && !rest.contains other) = !(item :: rest).contains other := by
      intro other
      rw [List.contains_cons, Bool.not_or]
      rfl
    simp only [List.cons_append, distinct, ih, List.filter_append, List.filter_filter, later]

/-- It does not matter whether repetitions are removed before a selection or after it. -/
theorem distinct_filter (keeps : String → Bool) (list : List String) :
    distinct (list.filter keeps) = (distinct list).filter keeps := by
  induction list with
  | nil => rfl
  | cons item rest ih =>
    by_cases kept : keeps item
    · simp [kept, distinct, ih, Bool.and_comm]
    · have others : ∀ other, (keeps other && other != item) = keeps other := by
        intro other
        by_cases same : other = item <;> simp [same, kept]
      simp [kept, distinct, ih, others]

/-- It does not matter whether repetitions are left out before or after. -/
theorem distinct_filterMap_distinct (f : String → Option String) (list : List String) :
    distinct ((distinct list).filterMap f) = distinct (list.filterMap f) := by
  induction list with
  | nil => rfl
  | cons item rest ih =>
    cases image : f item with
    | none =>
      have others : (fun other => if (other != item) = true then f other else none) = f := by
        funext other
        by_cases same : other = item <;> simp [same, image]
      simp only [distinct, List.filterMap_cons, image, List.filterMap_filter, others, ih]
    | some name =>
      have others : (((distinct rest).filter (· != item)).filterMap f).filter (· != name) =
          ((distinct rest).filterMap f).filter (· != name) := by
        rw [List.filter_filterMap, List.filter_filterMap, List.filterMap_filter]
        congr 1
        funext other
        by_cases same : other = item <;> simp [same, image, Option.filter]
      rw [distinct, List.filterMap_cons_some image, List.filterMap_cons_some image, distinct,
        distinct, ← ih, ← distinct_filter (· != name), ← distinct_filter (· != name), others]

/-- Items collected by key: keys in order of first appearance, the items of a key in order. -/
def grouped (items : List (String × α)) : List (String × List α) :=
  (distinct (keys items)).map
    (fun key => (key, (items.filter (fun entry => entry.1 == key)).map (·.2)))

/-- A key has all its items. -/
theorem getD_item?_grouped (items : List (String × α)) (key : String) :
    (item? (grouped items) key).getD [] =
      (items.filter (fun entry => entry.1 == key)).map (·.2) := by
  have found : ∀ list : List String, item? (list.map (fun other =>
      (other, (items.filter (fun entry => entry.1 == other)).map (·.2)))) key =
        if key ∈ list then some ((items.filter (fun entry => entry.1 == key)).map (·.2))
        else none := by
    intro list
    induction list with
    | nil => rfl
    | cons other rest ih =>
      rw [List.map_cons, item?_cons, ih]
      by_cases same : other = key
      · simp [same]
      · simp [same, Ne.symm same]
  rw [grouped, found]
  split
  · rfl
  · rename_i missing
    rw [mem_distinct_iff] at missing
    have nothing : items.filter (fun entry => entry.1 == key) = [] := by
      rw [List.filter_eq_nil_iff]
      intro entry member same
      apply missing
      rw [← eq_of_beq same]
      exact List.mem_map_of_mem member
    rw [nothing]
    rfl

/-- The keys of a collection are those of the items, each of them once. -/
theorem keys_grouped (items : List (String × α)) :
    keys (grouped items) = distinct (keys items) := by
  simp [keys, grouped, Function.comp_def]

/-- One more item goes behind the others of its key. -/
theorem grouped_concat (items : List (String × α)) (key : String) (item : α) :
    grouped (items ++ [(key, item)]) = alter key (· ++ [item]) [] (grouped items) := by
  have split : ∀ other,
      ((items ++ [(key, item)]).filter (fun entry => entry.1 == other)).map (·.2) =
      (items.filter (fun entry => entry.1 == other)).map (·.2) ++
        if key = other then [item] else [] := by
    intro other
    by_cases same : key = other <;> simp [same, List.filter_append]
  have keys_eq : keys (items ++ [(key, item)]) = keys items ++ [key] := by simp [keys]
  simp only [grouped, split, keys_eq, distinct_concat]
  -- a known key keeps its place among the keys, a new one comes last
  by_cases known : key ∈ keys items
  · have member : key ∈ (distinct (keys items)).map (fun other => other) := by
      simpa using mem_distinct_iff.mpr known
    rw [if_pos known, alter_map (by simpa using nodup_distinct (keys items)) member]
    apply List.map_congr_left
    intro other _
    by_cases same : key = other
    · simp [same]
    · simp [same, Ne.symm same]
  · have absent : has ((distinct (keys items)).map (fun other =>
        (other, (items.filter (fun entry => entry.1 == other)).map (·.2)))) key = false := by
      rw [← Bool.not_eq_true, has_iff_mem_keys, keys, List.map_map]
      simpa [Function.comp_def, mem_distinct_iff] using known
    have none_yet : items.filter (fun entry => entry.1 == key) = [] := by
      rw [List.filter_eq_nil_iff]
      intro entry member same
      apply known
      rw [← eq_of_beq same]
      exact List.mem_map_of_mem member
    rw [if_neg known, alter_of_not_has absent, List.map_append]
    congr 1
    · apply List.map_congr_left
      intro other member
      have apart : key ≠ other := by
        rintro rfl
        exact known (mem_distinct_iff.mp member)
      simp [apart]
    · simp [none_yet]

end SignOn.Keyed
