import SignOn.Proofs.Profile.Documents

/-!
# Reading undoes rendering

Line by line the rendering of a document says the parts of its flattening (`partsOf_document`): an
item says its relations and leads back to the place where it stands. Main statement: the profile
read from any rendering of a document is the flattening of the document (`read_eq_flattened`).
-/

set_option autoImplicit false

namespace SignOn.Profile

open Text

/-! ## The parts of a document -/

/-- Only what lines say has part in a profile. -/
theorem partsOf_told (place : Place) (layout : List (List Char)) :
    partsOf place (told layout) = partsOf place (layout.map understood) := by
  rw [told]
  induction layout.map understood generalizing place with
  | nil => rfl
  | cons line rest ih =>
    cases line with
    | skipped | includes => exact ih place
    | header | close | subsection | relation => exact congrArg (_ ++ ·) (ih _)

/-- Dotted tags are the tags with points in between. -/
theorem dotted_eq_intercalate (tags : List (List Char)) :
    dotted tags = ['.'].intercalate tags := by
  fun_induction dotted tags with
  | case1 => rfl
  | case2 tag => simp [List.intercalate]
  | case3 tag rest more ih =>
    obtain ⟨next, others, rfl⟩ := List.exists_cons_of_ne_nil (fun none => more none)
    rw [ih]
    simp [List.intercalate]

/-- Where a path of tags leads in a section. -/
def Place.below (name : String) (path : List Tag) : Place :=
  ⟨some name, (path.map (·.chars)).reverse⟩

/-- The key of a relation below some tags is the path to it, its own tag included. -/
theorem keyOf_below (path : List Tag) (tag : Tag) :
    keyOf (path.map (·.chars)).reverse tag.chars = dottedKey (path ++ [tag]) := by
  rw [keyOf, dotted_eq_intercalate, dottedKey]
  simp

mutual
/-- An item says its relations, and leads back to where it stands. -/
theorem partsOf_item (name : String) (path : List Tag) (item : Item) (later : List Line) :
    partsOf (.below name path) (item.lines.map understood ++ later) =
      (item.entries path).map (fun entry => ⟨name, [entry]⟩) ++
        partsOf (.below name path) later := by
  cases item with
  | relation tag value =>
    have line_eq := understood_assigned tag value.trimmed
    rw [if_neg value.not_brace] at line_eq
    simp only [Item.lines, Item.entries, List.map_singleton, List.singleton_append, line_eq,
      ← keyOf_below]
    rfl
  | subsection tag items =>
    have brace : IsTrimmed ['\x7b'] := by decide
    have line_eq := understood_assigned tag brace
    rw [if_pos rfl] at line_eq
    have inside := partsOf_items name (path ++ [tag]) items (.close :: later)
    have deeper : (Place.below name path).after (.subsection tag.chars) =
        .below name (path ++ [tag]) := by
      simp [Place.below, Place.after]
    have back : (Place.below name (path ++ [tag])).after .close = .below name path := by
      simp [Place.below, Place.after]
    simp only [Item.lines, Item.entries, List.map_cons, List.map_append, List.map_nil,
      List.cons_append, List.append_assoc, List.nil_append, line_eq, understood_close]
    rw [partsOf, deeper, inside, partsOf, back]
    rfl

/-- The lines of items add their entries to the section that they stand in, and lead back to where
they began. -/
theorem partsOf_items (name : String) (path : List Tag) (items : List Item) (later : List Line) :
    partsOf (.below name path) ((linesOfAll items).map understood ++ later) =
      (entriesOf path items).map (fun entry => ⟨name, [entry]⟩) ++
        partsOf (.below name path) later := by
  cases items with
  | nil => rfl
  | cons item rest =>
    have first := partsOf_item name path item ((linesOfAll rest).map understood ++ later)
    have others := partsOf_items name path rest later
    rw [linesOfAll, entriesOf, List.map_append, List.append_assoc, first, others,
      List.map_append, List.append_assoc]
end

/-- The parts that a section says one by one. -/
def Block.parts (block : Block) : List Part :=
  ⟨String.ofList block.name.chars, []⟩ ::
    (entriesOf [] block.items).map (fun entry => ⟨String.ofList block.name.chars, [entry]⟩)

/-- The lines of a document say what its blocks say, wherever they are read. -/
theorem partsOf_document (document : Document) (place : Place) :
    partsOf place (document.lines.map understood) = document.flatMap Block.parts := by
  induction document generalizing place with
  | nil => rfl
  | cons block rest ih =>
    have inside := partsOf_items (String.ofList block.name.chars) [] block.items
      (Document.lines rest |>.map understood)
    have lines_eq : Document.lines (block :: rest) =
        block.name.header :: (linesOfAll block.items ++ Document.lines rest) := by
      simp [Document.lines]
    rw [lines_eq, List.map_cons, List.map_append, understood_header, partsOf]
    have opened : place.after (.header block.name.chars) =
        .below (String.ofList block.name.chars) [] := rfl
    rw [opened, inside, ih, List.flatMap_cons, Block.parts]
    rfl

/-- Parts of one section are one part. -/
theorem take_take (profile : Profile) (name : String) (first second : List (String × String)) :
    (profile.take ⟨name, first⟩).take ⟨name, second⟩ = profile.take ⟨name, first ++ second⟩ := by
  have one : (fun relations => addAll second (addAll first relations)) =
      addAll (first ++ second) := by
    funext relations
    rw [addAll_append]
  have sections_eq : ((profile.take ⟨name, first⟩).take ⟨name, second⟩).sections =
      (profile.take ⟨name, first ++ second⟩).sections := by
    rw [sections_take, sections_take, sections_take, Keyed.alter_alter, one]
  exact congrArg Profile.mk sections_eq

/-- To take the parts of a block one by one is to take the block with all its entries. -/
theorem foldl_take_parts (profile : Profile) (block : Block) :
    block.parts.foldl take profile =
      profile.take ⟨String.ofList block.name.chars, entriesOf [] block.items⟩ := by
  have one_by_one : ∀ (entries first : List (String × String)),
      (entries.map (fun entry => Part.mk (String.ofList block.name.chars) [entry])).foldl take
          (profile.take ⟨String.ofList block.name.chars, first⟩) =
        profile.take ⟨String.ofList block.name.chars, first ++ entries⟩ := by
    intro entries
    induction entries with
    | nil => intro first; rw [List.append_nil]; rfl
    | cons entry rest ih =>
      intro first
      rw [List.map_cons, List.foldl_cons, take_take, ih, List.append_assoc]
      rfl
  exact one_by_one (entriesOf [] block.items) []

/-- The parts of a document make up its flattening. -/
theorem ofParts_document (document : Document) :
    ofParts (document.flatMap Block.parts) = document.flattened := by
  have collected : ∀ profile : Profile, (document.flatMap Block.parts).foldl take profile =
      (document.map (fun block =>
        Part.mk (String.ofList block.name.chars) (entriesOf [] block.items))).foldl take
          profile := by
    induction document with
    | nil => exact fun _ => rfl
    | cons block rest ih =>
      intro profile
      rw [List.flatMap_cons, List.foldl_append, foldl_take_parts, List.map_cons,
        List.foldl_cons, ih]
  rw [← foldl_take_empty, collected, foldl_take_empty, Document.flattened]

/-- A text that lays out lines which say what a document says has the document's flattening as its
profile. -/
theorem read_of_laysOut {document : Document} {text : String} {contents layout : List (List Char)}
    (laysOut : LaysOut contents layout) (isLine : ∀ content ∈ contents, IsLine content)
    (said : contents.map understood = document.lines.map understood)
    (isWritten : IsWritten layout text.toList) : read {} text = document.flattened := by
  have divided := isWritten.fullLines_eq (laysOut.isLine isLine)
  have told_eq : told (lines text.toList) = told contents := by
    rw [← told_fullLines, divided, told_fullLines, laysOut.told_eq]
  calc read {} text
      = ofParts (partsOf {} ((lines text.toList).map understood)) := read_empty text
    _ = ofParts (partsOf {} (contents.map understood)) := by
      rw [← partsOf_told, told_eq, partsOf_told]
    _ = document.flattened := by rw [said, partsOf_document, ofParts_document]

/-- Reading undoes rendering: the profile of a text that renders a document is the document's
flattening. -/
theorem read_eq_flattened (document : Document) (text : String)
    (renders : Renders text document) : read {} text = document.flattened := by
  obtain ⟨layout, laysOut, isWritten⟩ := renders
  exact read_of_laysOut laysOut document.isLine rfl isWritten

/-- A document with servers for one realm and a section that comes twice. -/
def realmServers : Document :=
  [ { name := { chars := "realms".toList },
      items := [.subsection { chars := "A.COM".toList }
        [ .relation { chars := "kdc".toList } { chars := "one".toList },
          .relation { chars := "kdc*".toList } { chars := "two".toList } ]] },
    { name := { chars := "libdefaults".toList }, items := [] },
    { name := { chars := "realms".toList },
      items := [.relation { chars := "v".toList } { chars := [] }] } ]

/-- The document with a comment and a directive, an empty line whose end is one with the end before
it, and no end of the last line. -/
def realmServersText : String :=
  "# servers\r\n[realms]\r\n A.COM = \x7b\n\tkdc = one\x0b\tkdc* = two\n \x7d\n" ++
    "include more\n[libdefaults] \n[realms]\nv = "

/-- Both values of the key are read, and sections come in order of first appearance. -/
theorem realmServers_read :
    Renders realmServersText realmServers ∧
      read {} realmServersText =
        ⟨[("realms", [("A.COM.kdc", ["one", "two"]), ("v", [""])]), ("libdefaults", [])]⟩ := by
  have renders : Renders realmServersText realmServers := by
    refine ⟨_, .aside "# servers".toList
        (.comment [] (by decide) '#' (by decide) " servers".toList)
        (by decide) <|
      .line _ [] [] (by decide) (by decide) (by decide) <|
      .aside [] (.blank _ (by decide)) (by decide) <|
      .line _ [' '] [] (by decide) (by decide) (by decide) <|
      .line _ ['\t'] [] (by decide) (by decide) (by decide) <|
      .line _ ['\t'] [] (by decide) (by decide) (by decide) <|
      .line _ [' '] [] (by decide) (by decide) (by decide) <|
      .aside "include more".toList (.includes [] (by decide) " more".toList)
        (by decide) <|
      .line _ [] [' '] (by decide) (by decide) (by decide) <|
      .line _ [] [] (by decide) (by decide) (by decide) <|
      .line _ [] [] (by decide) (by decide) (by decide) .nothing, ?_⟩
    have written := IsWritten.ended "# servers".toList _ .pair <|
      .ended "[realms]".toList _ (.single '\r' rfl) <|
      .ended [] _ (.single '\n' rfl) <|
      .ended " A.COM = \x7b".toList _ (.single '\n' rfl) <|
      .ended "\tkdc = one".toList _ (.single '\x0b' rfl) <|
      .ended "\tkdc* = two".toList _ (.single '\n' rfl) <|
      .ended " \x7d".toList _ (.single '\n' rfl) <|
      .ended "include more".toList _ (.single '\n' rfl) <|
      .ended "[libdefaults] ".toList _ (.single '\n' rfl) <|
      .ended "[realms]".toList _ (.single '\n' rfl) <|
      .unended "v = ".toList
    exact Eq.mpr (congr (congrArg IsWritten (by decide +kernel)) (by decide +kernel)) written
  refine ⟨renders, ?_⟩
  rw [read_eq_flattened realmServers realmServersText renders]
  decide +kernel

end SignOn.Profile
