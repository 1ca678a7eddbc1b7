import SignOn.Profile.Reader
import SignOn.Proofs.Profile.Keyed

/-!
# What a text says about a profile

Line by line a text says that there is a section, or that a section has a relation. These parts
(`partsOf`) depend on the text alone, not on the profile that is read before it. Main statements:
reading a text adds its parts, less the relations whose keys the profile already has
(`read_eq_foldl_take`), and what parts add to the empty profile is their collection by section and
key (`foldl_take_empty`).
-/

set_option autoImplicit false

namespace SignOn.Profile

open Keyed

/-! ## Parts -/

/-- A part of a profile: a section, with relations that belong to it. -/
structure Part where
  name : String
  entries : List (String × String) := []
  deriving DecidableEq

/-- Relations with others added one by one. -/
def addAll (entries : List (String × String)) (relations : Relations) : Relations :=
  entries.foldl (fun relations entry => Relations.add entry.1 entry.2 relations) relations

/-- A profile with a part added. -/
def take (profile : Profile) (part : Part) : Profile :=
  ⟨updateIn part.name (addAll part.entries) profile.sections⟩

/-- A part less the relations whose keys a profile has. -/
def Part.without (part : Part) (profile : Profile) : Part :=
  { part with entries := part.entries.filter (fun entry => !profile.has part.name entry.1) }

/-- The profile that is made of parts: sections and keys in order of first appearance, the values of
a key in order. -/
def ofParts (parts : List Part) : Profile :=
  ⟨(grouped (parts.map (fun part => (part.name, part.entries)))).map
    (fun entry => (entry.1, grouped entry.2.flatten))⟩

/-- To add a value to a key is to alter the values of the key. -/
theorem add_eq_alter (key value : String) :
    Relations.add key value = alter key (· ++ [value]) [] := by
  funext relations
  induction relations with
  | nil => rfl
  | cons entry rest ih => rw [Relations.add, alter, ih]

/-- To update a section is to alter its relations. -/
theorem updateIn_eq_alter (name : String) (change : Relations → Relations) :
    updateIn name change = alter name change [] := by
  funext sections
  induction sections with
  | nil => rfl
  | cons entry rest ih => rw [updateIn, alter, ih]

/-- The relations of a section are its item, or none. -/
theorem relations_eq (profile : Profile) (name : String) :
    profile.relations name = (item? profile.sections name).getD [] := rfl

/-- A key is present in a section if it is among its relations. -/
theorem has_eq (profile : Profile) (name key : String) :
    profile.has name key = Keyed.has (profile.relations name) key := rfl

/-- To add a part to a profile is to alter the section of the part. -/
theorem sections_take (profile : Profile) (part : Part) :
    (profile.take part).sections = alter part.name (addAll part.entries) [] profile.sections :=
  congrFun (updateIn_eq_alter _ _) _

/-- What is added to one section leaves the others as they are. -/
theorem relations_take (profile : Profile) (part : Part) (name : String) :
    (profile.take part).relations name =
      if part.name = name then addAll part.entries (profile.relations name)
      else profile.relations name := by
  rw [relations_eq, sections_take, item?_alter]
  by_cases same : part.name = name <;> simp [same, relations_eq]

/-- Of two lists of relations, the first is added before the second. -/
theorem addAll_append (first second : List (String × String)) (relations : Relations) :
    addAll (first ++ second) relations = addAll second (addAll first relations) :=
  List.foldl_append

/-- A key is present after relations were added if it was before or is one of theirs. -/
theorem has_addAll (entries : List (String × String)) (relations : Relations) (key : String) :
    Keyed.has (addAll entries relations) key =
      (Keyed.has relations key || Keyed.has entries key) := by
  induction entries generalizing relations with
  | nil => simp [addAll, Keyed.has]
  | cons entry rest ih =>
    show Keyed.has (addAll rest (Relations.add entry.1 entry.2 relations)) key = _
    rw [ih, add_eq_alter, has_alter, has_cons, Bool.or_assoc, Bool.or_left_comm]

/-- A part adds its keys to its section. -/
theorem has_take (profile : Profile) (part : Part) (name key : String) :
    (profile.take part).has name key =
      (profile.has name key || (part.name == name && Keyed.has part.entries key)) := by
  rw [has_eq, has_eq, relations_take]
  by_cases same : part.name = name
  · simp [same, has_addAll]
  · simp [same]

/-- A section that is there is there already. -/
theorem take_eq_self {profile : Profile} {name : String}
    (present : Keyed.has profile.sections name = true) : profile.take ⟨name, []⟩ = profile := by
  have same : alter name (addAll []) [] profile.sections = profile.sections :=
    alter_eq_self present (fun _ _ => rfl)
  cases profile
  rw [take, updateIn_eq_alter, same]

/-- A section in which a key is present is present. -/
theorem hasSection_of_has {profile : Profile} {name key : String}
    (present : profile.has name key = true) : Keyed.has profile.sections name = true := by
  rw [← Bool.not_eq_false, ← item?_eq_none_iff]
  intro absent
  rw [has_eq, relations_eq, absent] at present
  cases present

/-! ## Collecting parts -/

/-- To collect two lists is to collect the first and add the second to it. -/
theorem grouped_append (first second : List (String × String)) :
    grouped (first ++ second) = addAll second (grouped first) := by
  induction second generalizing first with
  | nil => simp [addAll]
  | cons entry rest ih =>
    have next := ih (first ++ [entry])
    rw [List.append_assoc, List.singleton_append, grouped_concat, ← add_eq_alter] at next
    exact next

/-- A profile that is made of parts takes one more. -/
theorem ofParts_concat (parts : List Part) (part : Part) :
    ofParts (parts ++ [part]) = (ofParts parts).take part := by
  have commutes : ∀ parts : List (List (String × String)),
      grouped (parts ++ [part.entries]).flatten = addAll part.entries (grouped parts.flatten) := by
    intro parts
    simp [grouped_append]
  have moved := map_alter (fun parts => grouped parts.flatten) part.name commutes []
    (grouped (parts.map (fun part => (part.name, part.entries))))
  rw [take, updateIn_eq_alter, ofParts, ofParts, List.map_append, List.map_singleton,
    grouped_concat, moved]
  rfl

/-- What parts add to a collection of parts is the collection of all. -/
theorem foldl_take_ofParts (earlier later : List Part) :
    later.foldl take (ofParts earlier) = ofParts (earlier ++ later) := by
  induction later generalizing earlier with
  | nil => simp
  | cons part rest ih => rw [List.foldl_cons, ← ofParts_concat, ih, List.append_assoc]; rfl

/-- What parts add to the empty profile is their collection. -/
theorem foldl_take_empty (parts : List Part) : parts.foldl take {} = ofParts parts :=
  foldl_take_ofParts [] parts

/-! ## The parts that lines say -/

/-- Where a line stands: the section that it belongs to, and the tags of the open subsections, the
innermost first. -/
structure Place where
  current : Option String := none
  path : List (List Char) := []
  deriving DecidableEq

/-- Where the next line stands. -/
def Place.after (place : Place) : Line → Place
  | .skipped | .includes _ | .relation _ _ => place
  | .header name => ⟨some (String.ofList name), []⟩
  | .close => if place.current.isNone then place else { place with path := place.path.tail }
  | .subsection tag =>
    if place.current.isNone then place else { place with path := tag :: place.path }

/-- The part that a line says. -/
def Place.part? (place : Place) : Line → Option Part
  | .header name => some ⟨String.ofList name, []⟩
  | .relation tag value =>
    place.current.map (fun name => ⟨name, [(keyOf place.path tag, String.ofList value)]⟩)
  | .skipped | .includes _ | .close | .subsection _ => none

/-- The parts that lines say, from a place on. -/
def partsOf : Place → List Line → List Part
  | _, [] => []
  | place, line :: rest => (place.part? line).toList ++ partsOf (place.after line) rest

/-! ## Reading -/

/-- Where the reading of a file stands. -/
def Reading.place (reading : Reading) : Place := ⟨reading.current, reading.path⟩

/-- What is true while a file is read: beside the keys that the first profile had, there are the
file's own, and these are new. -/
structure Reading.Follows (first : Profile) (reading : Reading) : Prop where
  has_eq : ∀ name key,
    reading.profile.has name key = (first.has name key || reading.own.contains (name, key))
  own : ∀ name key, reading.own.contains (name, key) = true → first.has name key = false

/-- A relation is left out just if the first profile had its key. -/
theorem Reading.Follows.has_and_not_own {first : Profile} {reading : Reading}
    (follows : reading.Follows first) (name key : String) :
    (reading.profile.has name key && !reading.own.contains (name, key)) = first.has name key := by
  rw [follows.has_eq]
  have new := follows.own name key
  cases own : reading.own.contains (name, key) with
  | false => simp
  | true => simp [new own]

/-- What reading a line does: it adds the part that the line says, less what the first profile
had. -/
theorem Reading.Follows.step {first : Profile} {reading : Reading}
    (follows : reading.Follows first) (line : Line) :
    (reading.step line).Follows first ∧ (reading.step line).place = reading.place.after line ∧
      (reading.step line).profile =
        ((reading.place.part? line).toList.map (·.without first)).foldl take reading.profile := by
  cases line with
  | skipped | includes => exact ⟨follows, rfl, rfl⟩
  | header name =>
    refine ⟨⟨?_, follows.own⟩, rfl, rfl⟩
    intro other key
    have same := has_take reading.profile ⟨String.ofList name, []⟩ other key
    simp only [Keyed.has, List.any_nil, Bool.and_false, Bool.or_false] at same
    exact same.trans (follows.has_eq other key)
  | close | subsection tag =>
    cases current : reading.current <;>
      simp only [Reading.step, current] <;>
      exact ⟨⟨follows.has_eq, follows.own⟩, by simp [place, Place.after, current], rfl⟩
  | relation tag value =>
    cases current : reading.current with
    | none =>
      simp only [Reading.step, current]
      refine ⟨follows, rfl, ?_⟩
      simp [place, Place.part?, current]
    | some name =>
      have part_eq : reading.place.part? (.relation tag value) =
          some ⟨name, [(keyOf reading.path tag, String.ofList value)]⟩ := by
        simp [place, Place.part?, current]
      rw [part_eq]
      simp only [Reading.step, current, relate, follows.has_and_not_own]
      -- a key that the first profile had is passed over, any other is now one that was read
      cases had : first.has name (keyOf reading.path tag) with
      | true =>
        have present : Keyed.has reading.profile.sections name = true := by
          apply hasSection_of_has
          rw [follows.has_eq, had]
          rfl
        refine ⟨follows, rfl, ?_⟩
        simp [Part.without, had, take_eq_self present]
      | false =>
        rw [if_neg Bool.false_ne_true]
        refine ⟨⟨?_, ?_⟩, by simp [place, Place.after, current], ?_⟩
        · intro other key
          have added := has_take reading.profile
            ⟨name, [(keyOf reading.path tag, String.ofList value)]⟩ other key
          refine added.trans ?_
          rw [follows.has_eq]
          simp [Keyed.has]
          grind
        · intro other key own
          simp at own
          grind [follows.own]
        · simp [Part.without, had]
          rfl

/-- Reading lines adds the parts that they say, less what the first profile had. -/
theorem Reading.Follows.foldl_step {first : Profile} {reading : Reading}
    (follows : reading.Follows first) (lines : List Line) :
    (lines.foldl Reading.step reading).profile =
      ((partsOf reading.place lines).map (·.without first)).foldl take reading.profile := by
  induction lines generalizing reading with
  | nil => rfl
  | cons line rest ih =>
    obtain ⟨next, place_eq, profile_eq⟩ := follows.step line
    rw [List.foldl_cons, ih next, place_eq, profile_eq, partsOf, List.map_append,
      List.foldl_append]

/-- Reading a text adds the parts that it says, less the relations whose keys were there. -/
theorem read_eq_foldl_take (first : Profile) (text : String) :
    first.read text = ((partsOf {} (linesOf text)).map (·.without first)).foldl take first := by
  have follows : Reading.Follows first { profile := first } := by
    refine ⟨fun name key => by simp, fun name key own => by simp at own⟩
  exact follows.foldl_step (linesOf text)

/-- A text that is read first gives the collection of the parts that it says. -/
theorem read_empty (text : String) : read {} text = ofParts (partsOf {} (linesOf text)) := by
  have all : ∀ parts : List Part, parts.map (·.without {}) = parts := by
    intro parts
    induction parts with
    | nil => rfl
    | cons part rest ih =>
      have whole : part.without {} = part := by
        cases part
        simp [Part.without, has_eq, relations_eq, item?, Keyed.has]
      rw [List.map_cons, ih, whole]
  rw [read_eq_foldl_take, all, foldl_take_empty]

end SignOn.Profile
