import SignOn.Profile.Native
import SignOn.Proofs.Profile.Configured
import SignOn.Proofs.Profile.Spelling

/-!
# The realms of a document

In the section `realms` of a document a relation lists a server of a realm if the names that lead to
it, with points between them, are the name of the realm and then `.kdc` (`Named.realm?`): names can
have points in them, so there are several ways to come to one realm. Main statement: a profile has
the realms for which its document lists servers, in order, and a realm has the servers listed for
the first of them with its name in whatever case. Where only relations `kdc` directly in subsections
list servers, a realm has those in its own subsections (`realms_of_document`).
-/

set_option autoImplicit false

namespace SignOn.Profile

open Text Keyed

/-! ## Relations by name -/

/-- The name of a tag: the asterisks at its end, which mark it as final, do not belong to it. -/
def Tag.name (tag : Tag) : List Char := dropEndWhile (· == '*') tag.chars

/-- A relation with the names of the subsections around it, the outermost first, and its own name
last. -/
structure Named where
  path : List (List Char)
  value : String
  deriving DecidableEq

mutual
/-- The relations in an item, in order, with names of subsections around it in front. -/
def Item.named (around : List (List Char)) : Item → List Named
  | .relation tag value => [⟨around ++ [tag.name], String.ofList value.chars⟩]
  | .subsection tag items => namedIn (around ++ [tag.name]) items

/-- The relations in items. -/
def namedIn (around : List (List Char)) : List Item → List Named
  | [] => []
  | item :: rest => item.named around ++ namedIn around rest
end

mutual
/-- No subsection in an item is marked as final. -/
def Item.Unmarked : Item → Prop
  | .relation _ _ => True
  | .subsection tag items => tag.name = tag.chars ∧ UnmarkedIn items

/-- No subsection in items is marked as final. -/
def UnmarkedIn : List Item → Prop
  | [] => True
  | item :: rest => item.Unmarked ∧ UnmarkedIn rest
end

/-- The items of the sections of a document that have a name. -/
def Document.itemsOf (document : Document) (name : String) : List Item :=
  (document.filter (fun block => block.name.chars == name.toList)).flatMap (·.items)

/-- The names that lead to a relation with points between them. -/
def Named.dotted (relation : Named) : List Char := ['.'].intercalate relation.path

/-- The realm that a relation of the section `realms` lists a server of. -/
def Named.realm? (relation : Named) : Option String :=
  ((relation.dotted.dropSuffix? ".kdc".toList).filter (· ≠ [])).map String.ofList

/-- The server that a relation lists, behind its realm. -/
def Named.server? (relation : Named) : Option (String × String) :=
  relation.realm?.map (fun realm => (realm, relation.value))

/-- The servers that a document lists, each behind its realm. -/
def Document.listed (document : Document) : List (String × String) :=
  (namedIn [] (document.itemsOf "realms")).filterMap Named.server?

/-- The server that an item lists that stands directly in a subsection with the name of a realm: the
value of a relation `kdc`. -/
def Item.server? (realm : List Char) : Item → Option (String × String)
  | .relation tag value =>
    if tag.name = "kdc".toList then some (String.ofList realm, String.ofList value.chars) else none
  | .subsection _ _ => none

/-- The servers that stand directly in an item, if that is a subsection. -/
def Item.ownServers : Item → List (String × String)
  | .relation _ _ => []
  | .subsection tag items => items.filterMap (Item.server? tag.name)

/-- The servers in the subsections that stand directly in the section `realms`. -/
def Document.ownServers (document : Document) : List (String × String) :=
  (document.itemsOf "realms").flatMap Item.ownServers

/-- A relation lists a server only as a relation `kdc` directly in a subsection. -/
def Named.IsPlain (relation : Named) : Prop :=
  relation.realm? ≠ none → ∃ name, relation.path = [name, "kdc".toList]

/-- Only relations `kdc` directly in subsections list servers. -/
def Document.IsPlain (document : Document) : Prop :=
  ∀ relation ∈ namedIn [] (document.itemsOf "realms"), relation.IsPlain

/-- The servers listed for a realm. -/
def serversIn (listing : List (String × String)) (realm : String) : List String :=
  (listing.filter (fun entry => entry.1 == realm)).map (·.2)

/-! ## Names and keys -/

/-- With points between them, tags are tags with a point behind each and then the last one. -/
theorem intercalate_concat (tags : List (List Char)) (last : List Char) :
    ['.'].intercalate (tags ++ [last]) = tags.flatMap (· ++ ['.']) ++ last := by
  induction tags with
  | nil => simp [List.intercalate]
  | cons tag rest ih =>
    obtain ⟨next, others, split⟩ := List.exists_cons_of_ne_nil
      (List.append_ne_nil_of_right_ne_nil rest (List.cons_ne_nil last []))
    rw [List.cons_append, List.flatMap_cons, List.append_assoc, ← ih, split]
    simp [List.intercalate]

/-- The mark goes with the last tag, and points stay. -/
theorem dottedKey_concat (path : List Tag) (unmarked : ∀ tag ∈ path, tag.name = tag.chars)
    (tag : Tag) (value : String) :
    dottedKey (path ++ [tag]) =
      String.ofList (Named.dotted ⟨path.map Tag.name ++ [tag.name], value⟩) := by
  have names : path.map Tag.name = path.map (·.chars) := List.map_congr_left unmarked
  have cut : ∀ tags : List (List Char),
      dropEndWhile (· == '*') (tags.flatMap (· ++ ['.']) ++ tag.chars) =
        tags.flatMap (· ++ ['.']) ++ tag.name := by
    intro tags
    rcases List.eq_nil_or_concat' tags with rfl | ⟨before, last, rfl⟩
    · rfl
    · have ends : ((before ++ [last]).flatMap (· ++ ['.'])).getLast? = some '.' := by simp
      rw [Tag.name, dropEndWhile_append ends (by decide)]
  rw [dottedKey, List.map_append, List.map_singleton, intercalate_concat, cut, Named.dotted, names,
    intercalate_concat]

mutual
/-- Where no subsection is marked, the relations of an item are flattened to their names. -/
theorem entries_eq_named (path : List Tag) (unmarked_path : ∀ tag ∈ path, tag.name = tag.chars)
    (item : Item) (unmarked : item.Unmarked) :
    item.entries path =
      (item.named (path.map Tag.name)).map
        (fun relation => (String.ofList relation.dotted, relation.value)) := by
  cases item with
  | relation tag value =>
    rw [Item.entries, Item.named, dottedKey_concat path unmarked_path tag]
    rfl
  | subsection tag items =>
    rw [Item.Unmarked] at unmarked
    have unmarked_deeper : ∀ other ∈ path ++ [tag], other.name = other.chars := by
      rw [List.forall_mem_append, List.forall_mem_singleton]
      exact ⟨unmarked_path, unmarked.1⟩
    rw [Item.entries, Item.named, entriesOf_eq_namedIn _ unmarked_deeper items unmarked.2,
      List.map_append, List.map_singleton]

/-- If no subsection is marked as final, the keys of relations are their dotted names. -/
theorem entriesOf_eq_namedIn (path : List Tag)
    (unmarked_path : ∀ tag ∈ path, tag.name = tag.chars) (items : List Item)
    (unmarked : UnmarkedIn items) :
    entriesOf path items =
      (namedIn (path.map Tag.name) items).map
        (fun relation => (String.ofList relation.dotted, relation.value)) := by
  cases items with
  | nil => rfl
  | cons item rest =>
    rw [UnmarkedIn] at unmarked
    rw [entriesOf, namedIn, entries_eq_named path unmarked_path item unmarked.1,
      entriesOf_eq_namedIn path unmarked_path rest unmarked.2, List.map_append]
end

/-- The realm of a relation is read off its key. -/
theorem realmOfKey?_dotted (relation : Named) :
    realmOfKey? (String.ofList relation.dotted) = relation.realm? := by
  ext name
  have key_eq : String.ofList relation.dotted = name ++ ".kdc" ↔
      relation.dotted = name.toList ++ ".kdc".toList := by
    rw [← String.toList_inj, String.toList_ofList, String.toList_append]
  rw [realmOfKey?_eq_some_iff, key_eq, Named.realm?, Option.map_eq_some_iff]
  constructor
  · rintro ⟨given, split⟩
    have start : relation.dotted.dropSuffix? ".kdc".toList = some name.toList := by
      rw [List.dropSuffix?_eq_some_iff]
      exact ⟨_, split, beq_self_eq_true _⟩
    refine ⟨name.toList, ?_, String.ofList_toList⟩
    rw [start]
    simpa using given
  · rintro ⟨start, found, rfl⟩
    obtain ⟨found, given⟩ := Option.filter_eq_some_iff.mp found
    obtain ⟨ending, split, same⟩ := List.dropSuffix?_eq_some_iff.mp found
    rw [eq_of_beq same] at split
    have start_eq : (String.ofList start).toList = start := String.toList_ofList
    refine ⟨by simpa using given, ?_⟩
    rw [split, start_eq]

/-! ## The section of a document -/

/-- The relations in two lists of items are those in the one and then those in the other. -/
theorem entriesOf_append (path : List Tag) (first second : List Item) :
    entriesOf path (first ++ second) = entriesOf path first ++ entriesOf path second := by
  induction first with
  | nil => rfl
  | cons item rest ih => rw [List.cons_append, entriesOf, entriesOf, ih, List.append_assoc]

/-- The relations in the items of blocks are those of each block in turn. -/
theorem entriesOf_flatMap (path : List Tag) (blocks : List Block) :
    entriesOf path (blocks.flatMap (·.items)) =
      (blocks.map (fun block => entriesOf path block.items)).flatten := by
  induction blocks with
  | nil => rfl
  | cons block rest ih =>
    rw [List.flatMap_cons, entriesOf_append, ih, List.map_cons, List.flatten_cons]

/-- A section of the flattening collects the relations of all sections of that name. -/
theorem relations_flattened (document : Document) (name : String) :
    document.flattened.relations name = grouped (entriesOf [] (document.itemsOf name)) := by
  let parts := document.map (fun block =>
    (String.ofList block.name.chars, entriesOf [] block.items))
  have of_name : ((parts.filter (fun part => part.1 == name)).map (·.2)).flatten =
      entriesOf [] (document.itemsOf name) := by
    have same_name : ∀ chars : List Char,
        (String.ofList chars == name) = (chars == name.toList) := by
      intro chars
      rw [Bool.eq_iff_iff, beq_iff_eq, beq_iff_eq, ← String.toList_inj, String.toList_ofList]
    simp only [parts, List.filter_map, List.map_map, Function.comp_def, same_name]
    rw [Document.itemsOf, entriesOf_flatMap]
  have sections_eq : document.flattened.sections =
      (grouped parts).map (fun entry => (entry.1, grouped entry.2.flatten)) := by
    simp only [Document.flattened, ofParts, List.map_map, parts, Function.comp_def]
  calc document.flattened.relations name
      = (item? document.flattened.sections name).getD [] := rfl
    _ = grouped ((item? (grouped parts) name).getD []).flatten := by
      rw [sections_eq, item?_map
        (fun entry : String × List (List (String × String)) => grouped entry.2.flatten)]
      cases item? (grouped parts) name <;> rfl
    _ = grouped (entriesOf [] (document.itemsOf name)) := by rw [getD_item?_grouped, of_name]

/-! ## The servers of a realm -/

section Listed

variable {document : Document} (unmarked : UnmarkedIn (document.itemsOf "realms"))

include unmarked

/-- What a relation lists, it lists under the key of its realm. -/
theorem relations_realms :
    document.flattened.relations "realms" =
      grouped ((namedIn [] (document.itemsOf "realms")).map
        (fun relation => (String.ofList relation.dotted, relation.value))) := by
  rw [relations_flattened, entriesOf_eq_namedIn [] (by simp) _ unmarked]
  rfl

/-- The realms of a document are those for which it lists a server. -/
theorem realms_flattened : document.flattened.realms = distinct (keys document.listed) := by
  have found : (fun key => realmOfKey? key) ∘
      (fun relation : Named => String.ofList relation.dotted) = Named.realm? :=
    funext realmOfKey?_dotted
  have names : keys document.listed =
      (namedIn [] (document.itemsOf "realms")).filterMap Named.realm? := by
    rw [Document.listed, keys, List.map_filterMap]
    congr 1
    funext relation
    rw [Named.server?]
    cases relation.realm? <;> rfl
  have by_key : ∀ entries : Relations, entries.filterMap (fun entry => realmOfKey? entry.1) =
      (keys entries).filterMap realmOfKey? := by
    intro entries
    rw [keys, List.filterMap_map]
    rfl
  rw [realms, by_key, relations_realms unmarked, keys_grouped, distinct_filterMap_distinct, names]
  simp only [keys, List.map_map, List.filterMap_map, Function.comp_def, realmOfKey?_dotted]

/-- The values of the key of a realm are the servers that the document lists for it. -/
theorem values_flattened {realm : String} (given : realm ≠ "") :
    document.flattened.values "realms" (realm ++ ".kdc") = serversIn document.listed realm := by
  have values_eq : ∀ (relations : Relations) (key : String),
      relations.values key = (item? relations key).getD [] := fun _ _ => rfl
  rw [values, values_eq, relations_realms unmarked, getD_item?_grouped, serversIn, Document.listed]
  have same_realm : ∀ relation : Named,
      (String.ofList relation.dotted == realm ++ ".kdc") = (relation.realm? == some realm) := by
    intro relation
    rw [← realmOfKey?_dotted, Bool.eq_iff_iff, beq_iff_eq, beq_iff_eq, realmOfKey?_eq_some_iff]
    simp [given]
  rw [List.filter_filterMap, List.map_filterMap, List.filter_map, List.map_map,
    ← List.filterMap_eq_map, List.filterMap_filter]
  congr 1
  funext relation
  rw [Function.comp_apply, same_realm, Named.server?]
  cases relation.realm? with
  | none => rfl
  | some other => by_cases same : other = realm <;> simp [same, Option.filter]

/-- A realm of a document has a name and a server. -/
theorem mem_realms_flattened {realm : String} (member : realm ∈ document.flattened.realms) :
    realm ≠ "" ∧ serversIn document.listed realm ≠ [] := by
  rw [realms_flattened unmarked, mem_distinct_iff] at member
  obtain ⟨⟨_, server⟩, listed, rfl⟩ := List.mem_map.mp member
  constructor
  · obtain ⟨relation, _, found⟩ := List.mem_filterMap.mp listed
    obtain ⟨name, named, pair⟩ := Option.map_eq_some_iff.mp found
    rw [← realmOfKey?_dotted, realmOfKey?_eq_some_iff] at named
    cases pair
    exact named.1
  · rw [serversIn, ne_eq, List.map_eq_nil_iff]
    exact List.ne_nil_of_mem (List.mem_filter.mpr ⟨listed, beq_self_eq_true _⟩)

/-- The servers of a realm are those listed for the first realm with its name in whatever case. -/
theorem configuredServers?_flattened (realm : String) :
    document.flattened.configuredServers? realm =
      (document.flattened.realms.find? (fun name => upper name == upper realm)).map
        (serversIn document.listed) := by
  rw [configuredServers?, ← List.head?_filter]
  cases alike : document.flattened.realms.filter (fun name => upper name == upper realm) with
  | nil => rfl
  | cons first others =>
    have member : first ∈ document.flattened.realms := by
      have inside : first ∈ first :: others := List.mem_cons_self
      rw [← alike] at inside
      exact (List.mem_filter.mp inside).1
    obtain ⟨given, full⟩ := mem_realms_flattened unmarked member
    obtain ⟨server, rest, servers_eq⟩ := List.exists_cons_of_ne_nil full
    rw [List.findSome?_cons, values_flattened unmarked given, List.head?_cons, Option.map_some,
      servers_eq]

end Listed

/-! ## Servers in subsections of their own -/

mutual
/-- A relation in an item has a name beyond those of the subsections around the item. -/
theorem length_lt_of_mem_named (around : List (List Char)) (item : Item) :
    ∀ relation ∈ item.named around, around.length < relation.path.length := by
  cases item with
  | relation tag value => simp [Item.named]
  | subsection tag items =>
    intro relation member
    have deeper := length_lt_of_mem_namedIn (around ++ [tag.name]) items relation member
    rw [List.length_append] at deeper
    omega

/-- A relation in items has a name beyond those of the subsections around them. -/
theorem length_lt_of_mem_namedIn (around : List (List Char)) (items : List Item) :
    ∀ relation ∈ namedIn around items, around.length < relation.path.length := by
  cases items with
  | nil => simp [namedIn]
  | cons item rest =>
    rw [namedIn, List.forall_mem_append]
    exact ⟨length_lt_of_mem_named around item, length_lt_of_mem_namedIn around rest⟩
end

/-- A relation `kdc` directly in a subsection lists a server for the subsection's name. -/
theorem server?_direct {name : List Char} (given : name ≠ []) (value : String) :
    Named.server? ⟨[name, "kdc".toList], value⟩ = some (String.ofList name, value) := by
  have split : Named.dotted ⟨[name, "kdc".toList], value⟩ = name ++ ".kdc".toList := by
    simp [Named.dotted, List.intercalate]
  have start : (name ++ ".kdc".toList).dropSuffix? ".kdc".toList = some name := by
    rw [List.dropSuffix?_eq_some_iff]
    exact ⟨_, rfl, beq_self_eq_true _⟩
  simp only [Named.server?, Named.realm?, split, start]
  simp [Option.filter, given]

/-- A plain relation that is no `kdc` directly in a subsection lists no server. -/
theorem Named.IsPlain.server?_eq_none {relation : Named} (plain : relation.IsPlain)
    (other : ∀ name, relation.path ≠ [name, "kdc".toList]) : relation.server? = none := by
  have unlisted : relation.realm? = none :=
    Decidable.byContradiction fun lists => (plain lists).elim other
  rw [Named.server?, unlisted]
  rfl

/-- Directly in a subsection only relations `kdc` list servers. -/
theorem filterMap_server?_inside {name : List Char} (given : name ≠ []) (items : List Item)
    (plain : ∀ relation ∈ namedIn [name] items, relation.IsPlain) :
    (namedIn [name] items).filterMap Named.server? = items.filterMap (Item.server? name) := by
  induction items with
  | nil => rfl
  | cons item rest ih =>
    rw [namedIn, List.forall_mem_append] at plain
    -- a deeper relation has a longer path than one that stands directly in the subsection
    have first : (item.named [name]).filterMap Named.server? = (item.server? name).toList := by
      cases item with
      | relation tag value =>
        rw [Item.named, List.forall_mem_singleton] at plain
        rw [Item.named, Item.server?, List.filterMap_cons, List.filterMap_nil]
        by_cases own : tag.name = "kdc".toList
        · have lists := server?_direct given (String.ofList value.chars)
          rw [if_pos own, own, List.singleton_append, lists]
          rfl
        · have nothing := plain.1.server?_eq_none
            (fun _ direct => own (List.cons.inj (List.cons.inj direct).2).1)
          rw [if_neg own, nothing]
          rfl
      | subsection tag items =>
        rw [Item.server?, Option.toList_none, List.filterMap_eq_nil_iff]
        intro relation member
        have deeper := length_lt_of_mem_namedIn [name, tag.name] items relation member
        apply (plain.1 relation member).server?_eq_none
        intro other direct
        rw [direct] at deeper
        exact absurd deeper (by simp)
    rw [namedIn, List.filterMap_append, first, ih plain.2, List.filterMap_cons]
    cases item.server? name <;> rfl

/-- Where all relations are plain, the servers listed stand directly in subsections. -/
theorem filterMap_server?_namedIn (items : List Item) (unmarked : UnmarkedIn items)
    (plain : ∀ relation ∈ namedIn [] items, relation.IsPlain) :
    (namedIn [] items).filterMap Named.server? = items.flatMap Item.ownServers := by
  induction items with
  | nil => rfl
  | cons item rest ih =>
    rw [namedIn, List.forall_mem_append] at plain
    rw [UnmarkedIn] at unmarked
    have first : (item.named []).filterMap Named.server? = item.ownServers := by
      cases item with
      | relation tag value =>
        rw [Item.named, List.forall_mem_singleton] at plain
        have nothing := plain.1.server?_eq_none (by simp)
        rw [Item.named, List.filterMap_cons, nothing]
        rfl
      | subsection tag items =>
        rw [Item.Unmarked] at unmarked
        have given : tag.name ≠ [] := by
          rw [unmarked.1.1]
          exact tag.isTag.ne_nil
        exact filterMap_server?_inside given items plain.1
    rw [namedIn, List.filterMap_append, first, ih unmarked.2 plain.2, List.flatMap_cons]

/-- A tag written as a string. -/
def Tag.of (text : String) (isTag : decide (IsTag text.toList) = true := by decide) : Tag where
  chars := text.toList
  isTag := of_decide_eq_true isTag

/-- A name written as a string. -/
def Name.of (text : String)
    (isName : decide (IsLine text.toList ∧ IsTrimmed text.toList) = true := by decide) : Name where
  chars := text.toList
  isLine := (of_decide_eq_true isName).1
  trimmed := (of_decide_eq_true isName).2

/-- A value written as a string. -/
def Value.of (text : String)
    (isValue :
      decide (IsLine text.toList ∧ IsTrimmed text.toList ∧ text.toList ≠ ['\x7b']) = true :=
        by decide) : Value where
  chars := text.toList
  isLine := (of_decide_eq_true isValue).1
  trimmed := (of_decide_eq_true isValue).2.1
  not_brace := (of_decide_eq_true isValue).2.2

/-- A document where a relation `kdc` stands deeper than in a subsection of the section, and two
subsections have one name in two cases. -/
def nestedServers : Document :=
  [ ⟨.of "realms",
      [ .subsection (.of "A.COM")
          [ .relation (.of "kdc") (.of "one"),
            .subsection (.of "v4") [.relation (.of "kdc") (.of "two")] ],
        .subsection (.of "a.com") [.relation (.of "kdc") (.of "three")] ]⟩ ]

/-- The document, written out. -/
def nestedServersText : String :=
  "[realms]\nA.COM = \x7b\nkdc = one\nv4 = \x7b\nkdc = two\n\x7d\n\x7d\n" ++
    "a.com = \x7b\nkdc = three\n\x7d\n"

/-- The deeper relation makes a realm of its own, and the second name has the servers of the
first. -/
theorem nested_realm :
    Spells nestedServersText nestedServers ∧
      (read {} nestedServersText).realms = ["A.COM", "A.COM.v4", "a.com"] ∧
      distinct (keys nestedServers.ownServers) = ["A.COM", "a.com"] ∧
      (∀ configuration : NativeConfiguration, configuration.profile = read {} nestedServersText →
        (configuration.servers "a.com").run = .done (.ok ["one"])) ∧
      serversIn nestedServers.ownServers "a.com" = ["three"] := by
  have text_eq : nestedServersText = nestedServers.text := by decide +kernel
  have spells : Spells nestedServersText nestedServers := text_eq ▸ spells_text nestedServers
  have realms_eq : nestedServers.flattened.realms = ["A.COM", "A.COM.v4", "a.com"] := by
    decide +kernel
  have configured : nestedServers.flattened.configuredServers? "a.com" = some ["one"] := by
    decide +kernel
  rw [read_of_spells spells]
  refine ⟨spells, realms_eq, by decide +kernel, ?_, by decide +kernel⟩
  intro configuration same
  rw [NativeConfiguration.servers, same, configured]
  rfl

/-- The realms of a document whose subsections in the section `realms` are not marked as final are
those for which it lists servers, in order and each once, and a realm has the servers listed for the
first of them with its name in whatever case, in order, without anything being asked. Where only
relations `kdc` directly in subsections list servers, the realms are the names of those subsections,
and a realm has the servers in its own, if no other realm has its name in another case. -/
theorem realms_of_document (document : Document) (text : String) (spells : Spells text document)
    (unmarked : UnmarkedIn (document.itemsOf "realms")) :
    let profile := read {} text
    profile.realms = distinct (keys document.listed) ∧
      (∀ realm ∈ profile.realms, ∃ first,
        profile.realms.find? (fun name => upper name == upper realm) = some first ∧
          ∀ configuration : NativeConfiguration, configuration.profile = profile →
            (configuration.servers realm).run = .done (.ok (serversIn document.listed first))) ∧
      (document.IsPlain →
        profile.realms = distinct (keys document.ownServers) ∧
          ∀ realm ∈ profile.realms,
            (∀ other ∈ profile.realms, upper other = upper realm → other = realm) →
              ∀ configuration : NativeConfiguration, configuration.profile = profile →
                (configuration.servers realm).run =
                  .done (.ok (serversIn document.ownServers realm))) := by
  intro profile
  have profile_eq : profile = document.flattened := read_of_spells spells
  have servers_eq : ∀ realm first,
      profile.realms.find? (fun name => upper name == upper realm) = some first →
      ∀ configuration : NativeConfiguration, configuration.profile = profile →
        (configuration.servers realm).run = .done (.ok (serversIn document.listed first)) := by
    intro realm first found configuration same
    have configured := configuredServers?_flattened unmarked realm
    rw [← profile_eq, found] at configured
    rw [NativeConfiguration.servers, same, configured]
    rfl
  have first_found : ∀ realm ∈ profile.realms, ∃ first,
      profile.realms.find? (fun name => upper name == upper realm) = some first := by
    intro realm member
    rw [← Option.isSome_iff_exists, List.find?_isSome]
    exact ⟨realm, member, beq_self_eq_true _⟩
  have realms_eq : profile.realms = distinct (keys document.listed) := by
    rw [profile_eq, realms_flattened unmarked]
  refine ⟨realms_eq, ?_, ?_⟩
  · intro realm member
    obtain ⟨first, found⟩ := first_found realm member
    exact ⟨first, found, servers_eq realm first found⟩
  · intro plain
    have own : document.listed = document.ownServers :=
      filterMap_server?_namedIn _ unmarked plain
    rw [own] at realms_eq
    refine ⟨realms_eq, ?_⟩
    intro realm member alone configuration same
    obtain ⟨first, found⟩ := first_found realm member
    -- the first name in whatever case is the only one, so it is the realm itself
    have alike : first = realm :=
      alone first (List.mem_of_find?_eq_some found) (by simpa using List.find?_some found)
    rw [servers_eq realm first found configuration same, own, alike]

/-- A document with a realm whose servers stand in two subsections and a relation with a mark, and
a deeper relation with another name. -/
def scatteredServers : Document :=
  [ ⟨.of "realms",
      [ .subsection (.of "A.COM")
          [ .relation (.of "kdc*") (.of "one"),
            .subsection (.of "v4") [.relation (.of "realm") (.of "A")] ],
        .relation (.of "default") (.of "A.COM") ]⟩,
    ⟨.of "libdefaults", []⟩,
    ⟨.of "realms",
      [ .subsection (.of "B") [.relation (.of "kdc") (.of "two")],
        .subsection (.of "A.COM") [.relation (.of "kdc") (.of "three")] ]⟩ ]

/-- The realms come in order, and the servers of both subsections are one realm's. -/
theorem scattered_realms :
    Spells scatteredServers.text scatteredServers ∧
      UnmarkedIn (scatteredServers.itemsOf "realms") ∧ scatteredServers.IsPlain ∧
      (read {} scatteredServers.text).realms = ["A.COM", "B"] ∧
      ∀ configuration : NativeConfiguration,
        configuration.profile = read {} scatteredServers.text →
          (configuration.servers "A.COM").run = .done (.ok ["one", "three"]) := by
  have spells := spells_text scatteredServers
  have unmarked : UnmarkedIn (scatteredServers.itemsOf "realms") :=
    ⟨⟨by decide, trivial, ⟨by decide, trivial, trivial⟩, trivial⟩, trivial,
      ⟨by decide, trivial, trivial⟩, ⟨by decide, trivial, trivial⟩, trivial⟩
  have plain : scatteredServers.IsPlain := by
    have relations_eq : namedIn [] (scatteredServers.itemsOf "realms") =
        [ ⟨["A.COM".toList, "kdc".toList], "one"⟩,
          ⟨["A.COM".toList, "v4".toList, "realm".toList], "A"⟩, ⟨["default".toList], "A.COM"⟩,
          ⟨["B".toList, "kdc".toList], "two"⟩, ⟨["A.COM".toList, "kdc".toList], "three"⟩ ] := by
      decide +kernel
    rw [Document.IsPlain, relations_eq]
    simp only [List.forall_mem_cons, Named.IsPlain]
    exact ⟨fun _ => ⟨_, rfl⟩, fun lists => absurd (by decide +kernel) lists,
      fun lists => absurd (by decide +kernel) lists, fun _ => ⟨_, rfl⟩, fun _ => ⟨_, rfl⟩,
      by simp⟩
  obtain ⟨-, -, of_plain⟩ := realms_of_document scatteredServers _ spells unmarked
  obtain ⟨realms_eq, servers_eq⟩ := of_plain plain
  have names : distinct (keys scatteredServers.ownServers) = ["A.COM", "B"] := by decide +kernel
  have own : serversIn scatteredServers.ownServers "A.COM" = ["one", "three"] := by decide +kernel
  rw [names] at realms_eq
  have member : "A.COM" ∈ (read {} scatteredServers.text).realms := by
    rw [realms_eq]
    exact List.mem_cons_self
  have alone : ∀ other ∈ (read {} scatteredServers.text).realms,
      upper other = upper "A.COM" → other = "A.COM" := by
    have apart : upper "B" ≠ upper "A.COM" := by decide +kernel
    rw [realms_eq]
    intro other inside alike
    rcases List.mem_pair.mp inside with rfl | rfl
    · rfl
    · exact absurd alike apart
  have found := servers_eq "A.COM" member alone
  rw [own] at found
  exact ⟨spells, unmarked, plain, realms_eq, found⟩

end SignOn.Profile
