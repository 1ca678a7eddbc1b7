import SignOn.Proofs.Profile.Parts

/-!
# Merging profiles

In the merge of two profiles the first decides on every key that it has, and the second adds the
keys and sections that are new, behind the others and in its own order (`merge`). Main statements:
reading a text merges the profile read before it with what the text gives by itself
(`read_eq_merge`), and a text that was read already adds nothing (`mergeAll_again`).
-/

set_option autoImplicit false

namespace SignOn.Keyed

variable {β : Type}

/-- The entries of two lists, less those of the second whose keys are in the first. -/
def union (first second : List (String × β)) : List (String × β) :=
  first ++ second.filter (fun entry => !has first entry.1)

/-- The first of two lists decides on the items of its keys. -/
theorem item?_union (first second : List (String × β)) (key : String) :
    item? (union first second) key = (item? first key).or (item? second key) := by
  rw [union, item?_append, item?_filter (fun key => !has first key)]
  cases found : item? first key with
  | some item => rfl
  | none =>
    rw [item?_eq_none_iff.mp found]
    rfl

/-- A key is present in a union if it is in one of the lists. -/
theorem has_union (first second : List (String × β)) (key : String) :
    has (union first second) key = (has first key || has second key) := by
  rw [union, has_append, has_filter (fun key => !has first key)]
  cases has first key <;> rfl

/-- The keys of a union are those of the first list and then the new ones of the second. -/
theorem keys_union (first second : List (String × β)) :
    keys (union first second) = keys first ++ (keys second).filter (fun key => !has first key) := by
  rw [union, keys, keys, keys, List.map_append, List.filter_map]
  rfl

/-- A union with nothing changes nothing. -/
@[simp] theorem union_nil (first : List (String × β)) : union first [] = first :=
  List.append_nil first

/-- A union of nothing with a list is that list. -/
@[simp] theorem nil_union (second : List (String × β)) : union [] second = second :=
  List.filter_eq_self.mpr (fun _ _ => rfl)

/-- Entries whose keys are all there add nothing. -/
theorem union_eq_self {first second : List (String × β)}
    (covered : ∀ key, has second key = true → has first key = true) :
    union first second = first := by
  have nothing : second.filter (fun entry => !has first entry.1) = [] := by
    rw [List.filter_eq_nil_iff]
    intro entry member
    have present : has second entry.1 = true :=
      has_iff_mem_keys.mpr (List.mem_map_of_mem member)
    simp [covered entry.1 present]
  rw [union, nothing, List.append_nil]

end SignOn.Keyed

namespace SignOn.Profile

open Keyed

/-- The merge of two profiles. -/
def merge (first second : Profile) : Profile :=
  ⟨first.sections.map (fun entry => (entry.1, union entry.2 (second.relations entry.1))) ++
    second.sections.filter (fun entry => !Keyed.has first.sections entry.1)⟩

/-- No section is listed twice. -/
def IsDistinct (profile : Profile) : Prop := (keys profile.sections).Nodup

/-! ## What a merge holds -/

/-- Section by section, a merge unites the relations. -/
theorem relations_merge (first second : Profile) (name : String) :
    (first.merge second).relations name =
      union (first.relations name) (second.relations name) := by
  rw [relations_eq, merge, item?_append,
    item?_map (fun entry => union entry.2 (second.relations entry.1)),
    item?_filter (fun name => !Keyed.has first.sections name), relations_eq first]
  cases found : item? first.sections name with
  | some relations => rfl
  | none =>
    rw [item?_eq_none_iff.mp found]
    simp [relations_eq]

/-- A key is present in a merge if it is in one of the profiles. -/
theorem has_merge (first second : Profile) (name key : String) :
    (first.merge second).has name key = (first.has name key || second.has name key) := by
  rw [has_eq, relations_merge, has_union]
  rfl

/-- The values of a key are those of the first profile that has it, never a mixture. -/
theorem values_merge (first second : Profile) (name key : String) :
    (first.merge second).values name key =
      if first.has name key then first.values name key else second.values name key := by
  have found : (first.merge second).values name key =
      (item? ((first.merge second).relations name) key).getD [] := rfl
  rw [found, relations_merge, item?_union, has_eq]
  cases item : item? (first.relations name) key with
  | none =>
    rw [item?_eq_none_iff.mp item]
    rfl
  | some values =>
    have present : Keyed.has (first.relations name) key = true := by
      rw [← Bool.not_eq_false, ← item?_eq_none_iff, item]
      simp
    have own : first.values name key = values := by
      show (item? (first.relations name) key).getD [] = values
      rw [item]
      rfl
    rw [if_pos present, own]
    rfl

/-- The sections of the first profile come first. -/
theorem keys_sections_merge (first second : Profile) :
    keys (first.merge second).sections = keys first.sections ++
      (keys second.sections).filter (fun name => !Keyed.has first.sections name) := by
  have same : keys (first.merge second).sections =
      keys (union first.sections second.sections) := by
    simp [merge, union, keys]
  rw [same, keys_union]

/-- A section is present in a merge if it is in one of the profiles. -/
theorem hasSection_merge (first second : Profile) (name : String) :
    Keyed.has (first.merge second).sections name =
      (Keyed.has first.sections name || Keyed.has second.sections name) := by
  rw [merge, has_append, has_map (fun entry => union entry.2 (second.relations entry.1)),
    has_filter (fun name => !Keyed.has first.sections name)]
  cases Keyed.has first.sections name <;> rfl

/-- A merge with the empty profile changes nothing. -/
@[simp] theorem merge_empty (profile : Profile) : profile.merge {} = profile := by
  cases profile
  simp [merge, relations_eq, item?]

/-! ## Reading is merging -/

/-- A value that is added to the second list shows in the union, unless the first list has its
key. -/
theorem union_add (first second : Relations) (key value : String) :
    union first (Relations.add key value second) =
      if Keyed.has first key then union first second
      else Relations.add key value (union first second) := by
  rw [add_eq_alter, union, union, filter_alter (fun key => !Keyed.has first key), alter_append]
  cases Keyed.has first key <;> rfl

/-- In a union, relations may be added to the second list or, less those whose keys are in the
first, to both. -/
theorem union_addAll (first second : Relations) (entries : List (String × String)) :
    union first (addAll entries second) =
      addAll (entries.filter (fun entry => !Keyed.has first entry.1)) (union first second) := by
  induction entries generalizing second with
  | nil => rfl
  | cons entry rest ih =>
    show union first (addAll rest (Relations.add entry.1 entry.2 second)) = _
    rw [ih, union_add]
    cases present : Keyed.has first entry.1 with
    | true => simp [present]
    | false => simp [present, addAll]

/-- In a merge, a part may be added to the second profile or, less what the first has, to both. -/
theorem merge_take {first : Profile} (distinct : first.IsDistinct) (second : Profile)
    (part : Part) :
    first.merge (second.take part) = (first.merge second).take (part.without first) := by
  have sections_eq : (first.merge (second.take part)).sections =
      ((first.merge second).take (part.without first)).sections := by
    rw [sections_take]
    simp only [merge, sections_take, alter_append,
      filter_alter (fun name => !Keyed.has first.sections name),
      has_map (fun entry : String × Relations => union entry.2 (second.relations entry.1))]
    have name_eq : (part.without first).name = part.name := rfl
    rw [name_eq]
    -- a section of the first profile takes the part where it stands, any other stands behind
    cases present : Keyed.has first.sections part.name with
    | true =>
      have member : part.name ∈ first.sections.map (·.1) := has_iff_mem_keys.mp present
      rw [alter_map distinct member]
      simp only [Bool.not_true, Bool.false_eq_true, if_false, if_true]
      congr 1
      apply List.map_congr_left
      intro entry inside
      have own : first.relations entry.1 = entry.2 := by
        rw [relations_eq, item?_of_mem distinct inside]
        rfl
      rw [relations_take]
      by_cases same : part.name = entry.1
      · rw [if_pos same, if_pos same.symm, union_addAll, Part.without]
        simp only [has_eq, same, own]
      · rw [if_neg same, if_neg (Ne.symm same)]
    | false =>
      -- the first profile has nothing in this section, so the part is taken as a whole
      have whole : part.without first = part := by
        have nothing : first.relations part.name = [] := by
          rw [relations_eq, item?_eq_none_iff.mpr present]
          rfl
        cases part
        simp_all [Part.without, has_eq, Keyed.has]
      simp only [Bool.not_false, Bool.false_eq_true, if_false, if_true, whole]
      congr 1
      apply List.map_congr_left
      intro entry inside
      have apart : part.name ≠ entry.1 := by
        intro same
        have member := has_iff_mem_keys.mpr (List.mem_map_of_mem (f := (·.1)) inside)
        rw [← same, present] at member
        cases member
      rw [relations_take, if_neg apart]
  exact congrArg Profile.mk sections_eq

/-- Reading a text merges the profile before it with what the text gives by itself. -/
theorem read_eq_merge {first : Profile} (distinct : first.IsDistinct) (text : String) :
    first.read text = first.merge (read {} text) := by
  have added : ∀ (parts : List Part) (second : Profile),
      (parts.map (·.without first)).foldl take (first.merge second) =
        first.merge (parts.foldl take second) := by
    intro parts
    induction parts with
    | nil => intro second; rfl
    | cons part rest ih =>
      intro second
      rw [List.map_cons, List.foldl_cons, List.foldl_cons, ← merge_take distinct, ih]
  rw [read_eq_foldl_take, read_empty, ← foldl_take_empty, ← added, merge_empty]

/-- What a part of a file says keeps the sections distinct. -/
theorem IsDistinct.take {profile : Profile} (distinct : profile.IsDistinct) (part : Part) :
    (profile.take part).IsDistinct := by
  rw [IsDistinct, sections_take]
  exact nodup_keys_alter distinct

/-- Reading lists no section twice. -/
theorem IsDistinct.read {profile : Profile} (distinct : profile.IsDistinct) (text : String) :
    (profile.read text).IsDistinct := by
  rw [read_eq_foldl_take]
  exact List.foldlRecOn _ _ distinct (fun _ distinct part _ => distinct.take part)

/-- The empty profile lists no section twice. -/
theorem isDistinct_empty : ({} : Profile).IsDistinct := List.nodup_nil

/-! ## Texts read again -/

/-- All sections and keys of a profile are in another one. -/
structure Covers (first second : Profile) : Prop where
  sections : ∀ name, Keyed.has second.sections name = true → Keyed.has first.sections name = true
  keys : ∀ name key, second.has name key = true → first.has name key = true

/-- A profile that is covered adds nothing. -/
theorem Covers.merge_eq_self {first second : Profile} (covers : Covers first second)
    (distinct : first.IsDistinct) : first.merge second = first := by
  have relations_eq_self : ∀ entry ∈ first.sections,
      (entry.1, union entry.2 (second.relations entry.1)) = entry := by
    intro entry inside
    have own : first.relations entry.1 = entry.2 := by
      rw [relations_eq, item?_of_mem distinct inside]
      rfl
    have covered := union_eq_self (covers.keys entry.1)
    rw [own] at covered
    rw [covered]
  have sections_eq : (first.merge second).sections = union first.sections second.sections := by
    rw [merge, union, List.map_congr_left relations_eq_self, List.map_id']
  exact congrArg Profile.mk (sections_eq.trans (union_eq_self covers.sections))

/-- A profile that covers another one still does so after a merge. -/
theorem Covers.merge {first second : Profile} (covers : Covers first second) (third : Profile) :
    Covers (first.merge third) second where
  sections name present := by rw [hasSection_merge, covers.sections name present, Bool.true_or]
  keys name key present := by rw [has_merge, covers.keys name key present, Bool.true_or]

/-- A merge covers its second profile. -/
theorem covers_merge (first second : Profile) : Covers (first.merge second) second where
  sections name present := by rw [hasSection_merge, present, Bool.or_true]
  keys name key present := by rw [has_merge, present, Bool.or_true]

/-- The merge of texts, in order. -/
def mergeAll (texts : List String) : Profile :=
  texts.foldl (fun profile text => profile.merge (read {} text)) {}

/-- Reading texts one after the other merges them. -/
theorem foldl_read_eq_merge {profile : Profile} (distinct : profile.IsDistinct)
    (texts : List String) :
    texts.foldl read profile =
      texts.foldl (fun profile text => profile.merge (read {} text)) profile := by
  induction texts generalizing profile with
  | nil => rfl
  | cons text rest ih =>
    rw [List.foldl_cons, List.foldl_cons, ih (distinct.read text), read_eq_merge distinct]

/-- To read texts one after the other, from nothing, is to merge them. -/
theorem foldl_read_empty (texts : List String) : texts.foldl read {} = mergeAll texts :=
  foldl_read_eq_merge isDistinct_empty texts

/-- A merge of texts lists no section twice. -/
theorem isDistinct_mergeAll (texts : List String) : (mergeAll texts).IsDistinct := by
  rw [← foldl_read_empty]
  exact List.foldlRecOn texts read isDistinct_empty (fun _ distinct text _ => distinct.read text)

/-- A text that was read already adds nothing. -/
theorem mergeAll_again (earlier middle later : List String) (text : String) :
    mergeAll (earlier ++ text :: (middle ++ text :: later)) =
      mergeAll (earlier ++ text :: (middle ++ later)) := by
  have before : Covers (mergeAll (earlier ++ text :: middle)) (read {} text) := by
    rw [mergeAll, List.foldl_append]
    exact List.foldlRecOn (motive := fun profile => Covers profile (read {} text)) middle _
      (covers_merge _ _) (fun _ covers other _ => covers.merge (read {} other))
  have same := before.merge_eq_self (isDistinct_mergeAll _)
  have split : ∀ rest, mergeAll (earlier ++ text :: (middle ++ rest)) =
      rest.foldl (fun profile text => profile.merge (read {} text))
        (mergeAll (earlier ++ text :: middle)) := by
    intro rest
    simp [mergeAll]
  rw [split, split, List.foldl_cons, same]

end SignOn.Profile
