import SignOn.Proofs.Profile.Documents

/-!
# Texts one after the other

A profile is continued by another one when every key keeps its values and the other's values come
behind them, new sections and keys last (`continuedBy`). Collecting parts turns lists of parts one
after the other into profiles that continue one another (`ofParts_append`), and a header makes the
reader forget where it was. Main statement: whatever a text is like, if the next one begins with a
header, the profile of both is that of the first, continued by that of the second
(`read_continued`).
-/

set_option autoImplicit false

namespace SignOn.Keyed

open Profile (distinct)

variable {α β γ : Type}

/-- The entries of two lists, where the items of a key that is in both are joined; a key that is
missing from the second list counts as having the item `fresh` there. -/
def joined (join : β → β → β) (fresh : β) (first second : List (String × β)) :
    List (String × β) :=
  first.map (fun entry => (entry.1, join entry.2 ((item? second entry.1).getD fresh))) ++
    second.filter (fun entry => !has first entry.1)

/-- The keys of a join are those of the first list and then the new ones of the second. -/
theorem keys_joined (join : β → β → β) (fresh : β) (first second : List (String × β)) :
    keys (joined join fresh first second) =
      keys first ++ (keys second).filter (fun key => !has first key) := by
  simp [joined, keys, List.filter_map, Function.comp_def]

/-- The item of a key in a join is the joint item of both lists, or that of the second list. -/
theorem item?_joined (join : β → β → β) (fresh : β) (first second : List (String × β))
    (key : String) :
    item? (joined join fresh first second) key =
      match item? first key with
      | some item => some (join item ((item? second key).getD fresh))
      | none => item? second key := by
  rw [joined, item?_append,
    item?_map (fun entry => join entry.2 ((item? second entry.1).getD fresh)),
    item?_filter (fun key => !has first key)]
  cases found : item? first key with
  | some item => rfl
  | none =>
    rw [item?_eq_none_iff.mp found]
    rfl

/-- Where joining has `fresh` as its unit, the items of a key are joined whether or not the key is
in both lists. -/
theorem getD_item?_joined {join : β → β → β} {fresh : β} (unit : ∀ item, join fresh item = item)
    (first second : List (String × β)) (key : String) :
    (item? (joined join fresh first second) key).getD fresh =
      join ((item? first key).getD fresh) ((item? second key).getD fresh) := by
  rw [item?_joined]
  cases item? first key with
  | some item => rfl
  | none => exact (unit _).symm

/-- A function that respects the joining of items respects the join. -/
theorem map_joined {join : β → β → β} {join' : γ → γ → γ} {f : β → γ}
    (commutes : ∀ first second, f (join first second) = join' (f first) (f second)) (fresh : β)
    (first second : List (String × β)) :
    (joined join fresh first second).map (fun entry => (entry.1, f entry.2)) =
      joined join' (f fresh) (first.map (fun entry => (entry.1, f entry.2)))
        (second.map (fun entry => (entry.1, f entry.2))) := by
  have found : ∀ key, (item? (second.map (fun entry => (entry.1, f entry.2))) key).getD (f fresh) =
      f ((item? second key).getD fresh) := by
    intro key
    rw [item?_map (fun entry => f entry.2)]
    cases item? second key <;> rfl
  simp only [joined, List.map_append, List.map_map, List.filter_map, Function.comp_def, found,
    commutes, has_map (fun entry => f entry.2)]

/-- Items collected by key: those of two lists, one after the other, are joined key by key. -/
theorem grouped_append_eq_joined (first second : List (String × α)) :
    grouped (first ++ second) = joined (· ++ ·) [] (grouped first) (grouped second) := by
  have known : ∀ key, has (grouped first) key = (keys first).contains key := by
    intro key
    rw [Bool.eq_iff_iff, has_iff_mem_keys, keys_grouped, mem_distinct_iff, List.contains_iff_mem]
  have of_first : ∀ key, ((first ++ second).filter (fun entry => entry.1 == key)).map (·.2) =
      (first.filter (fun entry => entry.1 == key)).map (·.2) ++
        (item? (grouped second) key).getD [] := by
    intro key
    rw [getD_item?_grouped, List.filter_append, List.map_append]
  have of_second : ∀ key ∈ (distinct (keys second)).filter (fun key => !(keys first).contains key),
      (key, ((first ++ second).filter (fun entry => entry.1 == key)).map (·.2)) =
        (key, (second.filter (fun entry => entry.1 == key)).map (·.2)) := by
    intro key new
    have absent : has first key = false := by
      rw [← Bool.not_eq_true, has_iff_mem_keys]
      simpa using (List.mem_filter.mp new).2
    rw [has, List.any_eq_false] at absent
    rw [List.filter_append, List.filter_eq_nil_iff.mpr absent, List.nil_append]
  have keys_eq : keys (first ++ second) = keys first ++ keys second := List.map_append
  rw [grouped, keys_eq, distinct_append, List.map_append, List.map_congr_left of_second, joined]
  simp only [known]
  simp only [of_first, grouped, List.map_map, List.filter_map, Function.comp_def]

end SignOn.Keyed

namespace SignOn

open Keyed Text

/-! ## Profiles that continue others -/

/-- Relations with the values of others behind their own, new keys last. -/
def Relations.continuedBy (first second : Relations) : Relations := joined (· ++ ·) [] first second

namespace Profile

/-- A profile with the values of another one behind its own, new sections and keys last. -/
def continuedBy (first second : Profile) : Profile :=
  ⟨joined Relations.continuedBy [] first.sections second.sections⟩

/-- Section by section, a profile is continued by the relations of the other one. -/
theorem relations_continuedBy (first second : Profile) (name : String) :
    (first.continuedBy second).relations name =
      (first.relations name).continuedBy (second.relations name) := by
  have unit : ∀ relations : Relations, Relations.continuedBy [] relations = relations := by
    intro relations
    simp [Relations.continuedBy, joined, Keyed.has]
  exact getD_item?_joined unit first.sections second.sections name

/-- The values of a key in a continued profile are those of the first and then those of the
second. -/
theorem values_continuedBy (first second : Profile) (name key : String) :
    (first.continuedBy second).values name key =
      first.values name key ++ second.values name key := by
  have values_eq : ∀ relations : Relations, relations.values key = (item? relations key).getD [] :=
    fun _ => rfl
  simp only [values, relations_continuedBy, values_eq]
  exact getD_item?_joined (fun _ => rfl) (first.relations name) (second.relations name) key

/-- Parts one after the other are collected into profiles that continue one another. -/
theorem ofParts_append (first second : List Part) :
    ofParts (first ++ second) = (ofParts first).continuedBy (ofParts second) := by
  have commutes : ∀ first second : List (List (String × String)),
      grouped (first ++ second).flatten =
        Relations.continuedBy (grouped first.flatten) (grouped second.flatten) := by
    intro first second
    rw [List.flatten_append, grouped_append_eq_joined, Relations.continuedBy]
  have moved := map_joined
    (f := fun parts : List (List (String × String)) => grouped parts.flatten) commutes []
    (grouped (first.map (fun part => (part.name, part.entries))))
    (grouped (second.map (fun part => (part.name, part.entries))))
  rw [ofParts, List.map_append, grouped_append_eq_joined, moved]
  rfl

/-! ## Where a text begins -/

/-- The header of a section, with blanks around it. -/
def IsHeader (line : List Char) : Prop :=
  ∃ before name after, IsBlank before ∧ IsBlank after ∧
    line = before ++ '[' :: (name ++ [']']) ++ after

/-- Of the lines that are no asides the first, if there is one, is the header of a section. -/
def OpensSection (layout : List (List Char)) : Prop :=
  ∃ asides rest, layout = asides ++ rest ∧ (∀ line ∈ asides, IsAside line) ∧
    ∀ line ∈ rest.head?, IsHeader line

/-- A line in brackets is a header, whatever stands in them. -/
theorem IsHeader.understood_eq {line : List Char} (isHeader : IsHeader line) :
    ∃ name, understood line = .header name := by
  obtain ⟨before, name, after, blank_before, blank_after, rfl⟩ := isHeader
  exact ⟨_, (understood_surrounded blank_before blank_after _).trans (understood_bracketed name)⟩

/-- From where the first lines lead, the second ones say their parts. -/
theorem partsOf_append (place : Place) (first second : List Line) :
    partsOf place (first ++ second) =
      partsOf place first ++ partsOf (first.foldl Place.after place) second := by
  induction first generalizing place with
  | nil => rfl
  | cons line rest ih => rw [List.cons_append, partsOf, partsOf, ih, List.append_assoc]; rfl

/-- Asides leave the reader where it is. -/
theorem partsOf_asides {asides : List (List Char)} (isAside : ∀ line ∈ asides, IsAside line)
    (place : Place) (later : List (List Char)) :
    partsOf place ((asides ++ later).map understood) = partsOf place (later.map understood) := by
  induction asides with
  | nil => rfl
  | cons line rest ih =>
    obtain ⟨first, others⟩ := List.forall_mem_cons.mp isAside
    rw [List.cons_append, List.map_cons, partsOf, ← ih others]
    have silent := isSilent_of_isAside first
    cases said : understood line with
    | skipped | includes => rfl
    | header | close | subsection | relation =>
      rw [said] at silent
      cases silent

/-- Where lines begin with a header, it does not matter what came before. -/
theorem OpensSection.partsOf_eq {layout : List (List Char)} (opens : OpensSection layout)
    (place : Place) :
    partsOf place (layout.map understood) = partsOf {} (layout.map understood) := by
  obtain ⟨asides, rest, rfl, isAside, begins⟩ := opens
  rw [partsOf_asides isAside, partsOf_asides isAside]
  cases rest with
  | nil => rfl
  | cons line others =>
    obtain ⟨name, said⟩ := (begins line rfl).understood_eq
    rw [List.map_cons, said]
    rfl

/-- A text that is followed by one that begins with a header, on a line of its own, is continued by
it: whatever the first text leaves open ends there. Each key has the values that the first text
gives it and then those that the second gives it, and the sections and keys of the first come
first. -/
theorem read_continued (first second : String) (opens : OpensSection (lines second.toList)) :
    read {} (first ++ "\n" ++ second) = (read {} first).continuedBy (read {} second) ∧
      (∀ name key, (read {} (first ++ "\n" ++ second)).values name key =
        (read {} first).values name key ++ (read {} second).values name key) ∧
      keys (read {} (first ++ "\n" ++ second)).sections = keys (read {} first).sections ++
        (keys (read {} second).sections).filter
          (fun name => !Keyed.has (read {} first).sections name) ∧
      ∀ name, keys ((read {} (first ++ "\n" ++ second)).relations name) =
        keys ((read {} first).relations name) ++
          (keys ((read {} second).relations name)).filter
            (fun key => !(read {} first).has name key) := by
  have whole : read {} (first ++ "\n" ++ second) =
      (read {} first).continuedBy (read {} second) := by
    obtain ⟨gap, divided, empty⟩ := lines_append_newline first.toList second.toList
    have isAside : ∀ line ∈ gap, IsAside line := by
      intro line member
      rw [empty line member]
      exact .blank [] (by decide)
    have chars : (first ++ "\n" ++ second).toList = first.toList ++ '\n' :: second.toList := by
      simp
    have lines_eq : linesOf (first ++ "\n" ++ second) =
        linesOf first ++ (gap ++ lines second.toList).map understood := by
      rw [linesOf, chars, divided, List.map_append]
      rfl
    rw [read_empty, lines_eq, partsOf_append, partsOf_asides isAside, opens.partsOf_eq,
      ofParts_append, ← read_empty]
    exact congrArg _ (read_empty second).symm
  rw [whole]
  refine ⟨rfl, values_continuedBy _ _, keys_joined _ _ _ _, fun name => ?_⟩
  rw [relations_continuedBy]
  exact keys_joined _ _ _ _

/-- A text with a brace too many, a line that says nothing and a subsection left open. -/
def damagedText : String := "[realms]\nA = \x7b\nkdc = one\n\x7d\n\x7d\nnothing\nB = \x7b"

/-- A text that begins with a comment and a header. -/
def headedText : String := "; more\n[libdefaults]\nv = 1\n[realms]\nA.kdc = two\nB = three"

/-- The subsection left open takes in nothing of the second text. -/
theorem damage_contained :
    OpensSection (lines headedText.toList) ∧
      read {} (damagedText ++ "\n" ++ headedText) =
        ⟨[("realms", [("A.kdc", ["one", "two"]), ("B", ["three"])]),
          ("libdefaults", [("v", ["1"])])]⟩ := by
  have divided : lines headedText.toList =
      ["; more".toList] ++ ["[libdefaults]".toList, "v = 1".toList, "[realms]".toList,
        "A.kdc = two".toList, "B = three".toList] := by decide +kernel
  have isAside : ∀ line ∈ ["; more".toList], IsAside line := by
    rw [List.forall_mem_singleton]
    exact .comment [] (by decide) ';' (by decide) " more".toList
  have opens : OpensSection (lines headedText.toList) := by
    refine ⟨_, _, divided, isAside, ?_⟩
    rintro _ ⟨⟩
    exact ⟨[], "libdefaults".toList, [], by decide, by decide, rfl⟩
  refine ⟨opens, ?_⟩
  rw [(read_continued damagedText headedText opens).1]
  decide +kernel

end Profile

end SignOn
