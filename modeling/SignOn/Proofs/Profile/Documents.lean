import SignOn.Proofs.Profile.Parts
import SignOn.Proofs.Text.Lines

/-!
# Documents

A document is a tree: sections of items, each a relation or a subsection with items of its own. It
can be flattened into a profile, or rendered as a text in many ways: in any line ends, with any
indentation, and with lines in between that say nothing. Main statement: what the lines of a
document say survives every layout (`LaysOut.told_eq`).
-/

set_option autoImplicit false

namespace SignOn.Profile

open Text

/-! ## Trees -/

/-- What can be a tag. -/
structure IsTag (tag : List Char) : Prop where
  ne_nil : tag ≠ []
  isLine : IsLine tag
  trimmed : IsTrimmed tag
  no_equals : '=' ∉ tag
  no_mark : ∀ c ∈ tag.head?, c ∉ ['#', ';', '[']
  no_include : ¬ "include".toList <+: tag

/-- Whether a text is a tag can be decided. -/
instance (tag : List Char) : Decidable (IsTag tag) :=
  have : Decidable (∀ c ∈ tag.head?, c ∉ ['#', ';', '[']) := Option.decidableForallMem tag.head?
  decidable_of_iff (tag ≠ [] ∧ IsLine tag ∧ IsTrimmed tag ∧ '=' ∉ tag ∧
      (∀ c ∈ tag.head?, c ∉ ['#', ';', '[']) ∧ ¬ "include".toList <+: tag)
    ⟨fun ⟨a, b, c, d, e, f⟩ => ⟨a, b, c, d, e, f⟩, fun ⟨a, b, c, d, e, f⟩ => ⟨a, b, c, d, e, f⟩⟩

/-- The tag of a relation or of a subsection. -/
structure Tag where
  chars : List Char
  isTag : IsTag chars := by decide

/-- The name of a section, possibly empty. -/
structure Name where
  chars : List Char
  isLine : IsLine chars := by decide
  trimmed : IsTrimmed chars := by decide

/-- The value of a relation, possibly empty; an opening brace alone is none. -/
structure Value where
  chars : List Char
  isLine : IsLine chars := by decide
  trimmed : IsTrimmed chars := by decide
  not_brace : chars ≠ ['\x7b'] := by decide

/-- An item of a section or a subsection. -/
inductive Item where
  | relation (tag : Tag) (value : Value)
  | subsection (tag : Tag) (items : List Item)

/-- A section with its items. -/
structure Block where
  name : Name
  items : List Item

/-- The sections of a file; a name may occur again. -/
abbrev Document : Type := List Block

/-- The key of a relation: the tags that lead to it with points between them, less asterisks at the
end. -/
def dottedKey (path : List Tag) : String :=
  String.ofList (dropEndWhile (· == '*') (['.'].intercalate (path.map (·.chars))))

mutual
/-- The relations in an item, in order, with their keys below a path. -/
def Item.entries (path : List Tag) : Item → List (String × String)
  | .relation tag value => [(dottedKey (path ++ [tag]), String.ofList value.chars)]
  | .subsection tag items => entriesOf (path ++ [tag]) items

/-- The relations in items. -/
def entriesOf (path : List Tag) : List Item → List (String × String)
  | [] => []
  | item :: rest => item.entries path ++ entriesOf path rest
end

/-- The profile that a document means. -/
def Document.flattened (document : Document) : Profile :=
  ofParts (document.map (fun block => ⟨String.ofList block.name.chars, entriesOf [] block.items⟩))

/-! ## Renderings -/

/-- The line of a tag with something assigned to it. -/
def Tag.assigned (tag : Tag) (value : List Char) : List Char := tag.chars ++ " = ".toList ++ value

mutual
/-- The lines of an item. -/
def Item.lines : Item → List (List Char)
  | .relation tag value => [tag.assigned value.chars]
  | .subsection tag items => tag.assigned ['\x7b'] :: (linesOfAll items ++ [['\x7d']])

/-- The lines of items. -/
def linesOfAll : List Item → List (List Char)
  | [] => []
  | item :: rest => item.lines ++ linesOfAll rest
end

/-- The header line of a section. -/
def Name.header (name : Name) : List Char := '[' :: (name.chars ++ [']'])

/-- The lines of a document. -/
def Document.lines (document : Document) : List (List Char) :=
  document.flatMap (fun block => block.name.header :: linesOfAll block.items)

/-- A line that says nothing: a blank line, a comment, or an include directive. -/
inductive IsAside : List Char → Prop where
  | blank (line : List Char) (isBlank : IsBlank line) : IsAside line
  | comment (indent : List Char) (isBlank : IsBlank indent) (mark : Char)
    (marks : mark ∈ ['#', ';']) (rest : List Char) : IsAside (indent ++ mark :: rest)
  | includes (indent : List Char) (isBlank : IsBlank indent) (rest : List Char) :
    IsAside (indent ++ ("include".toList ++ rest))

/-- Lines are laid out: with blanks around them and asides between them. -/
inductive LaysOut : List (List Char) → List (List Char) → Prop where
  | nothing : LaysOut [] []
  | aside (line : List Char) (isAside : IsAside line) (isLine : IsLine line)
    {contents layout : List (List Char)} (others : LaysOut contents layout) :
    LaysOut contents (line :: layout)
  | line (content before after : List Char) (blank_before : IsBlank before)
    (blank_after : IsBlank after) (isLine : IsLine (before ++ after))
    {contents layout : List (List Char)} (others : LaysOut contents layout) :
    LaysOut (content :: contents) ((before ++ content ++ after) :: layout)

/-- A text renders a document. -/
def Renders (text : String) (document : Document) : Prop :=
  ∃ layout, LaysOut document.lines layout ∧ IsWritten layout text.toList

/-! ## Understanding a line -/

/-- What a line says. -/
def understood (line : List Char) : Line := Line.ofTrimmed (trim line)

/-- A text is split at the first mark in it. -/
theorem splitAtFirst_append {mark : Char} {before : List Char} (absent : mark ∉ before)
    (after : List Char) : splitAtFirst mark (before ++ mark :: after) = some (before, after) := by
  induction before with
  | nil => simp [splitAtFirst]
  | cons c rest ih =>
    rw [List.mem_cons, not_or] at absent
    simp [splitAtFirst, Ne.symm absent.1, ih absent.2]

/-- A word without a character that ends before it is at the start of what comes before. -/
theorem isPrefix_of_append {word text : List Char} {c : Char} (absent : c ∉ word)
    {after : List Char} (starts : word <+: text ++ c :: after) : word <+: text := by
  obtain ⟨rest, split⟩ := starts
  rcases List.append_eq_append_iff.mp split with ⟨more, rfl, _⟩ | ⟨more, rfl, tail⟩
  · exact List.prefix_append word more
  · cases more with
    | nil => simp
    | cons d more =>
      cases tail
      exact absurd (by simp) absent

/-- A tag with an equals sign after it, possibly after blanks, is an assignment. -/
theorem ofTrimmed_assignment {tag gap : List Char} (isTag : IsTag tag) (blank : IsBlank gap)
    (after : List Char) :
    Line.ofTrimmed (tag ++ gap ++ '=' :: after) =
      if trim after = ['\x7b'] then .subsection tag else .relation tag (trim after) := by
  obtain ⟨first, rest, rfl⟩ := List.exists_cons_of_ne_nil isTag.ne_nil
  have no_mark := isTag.no_mark first rfl
  -- the word of a directive has no blanks in it, so the tag would have to begin with it
  have no_include : "include".toList.isPrefixOf (first :: rest ++ gap ++ '=' :: after) = false := by
    have no_blank : "include".toList.all (fun c => !isBlank c) = true := by decide
    rw [← Bool.not_eq_true, List.isPrefixOf_iff_prefix]
    intro starts
    have before := isPrefix_of_append (by decide) starts
    cases gap with
    | nil => exact isTag.no_include (by simpa using before)
    | cons c others =>
      refine isTag.no_include (isPrefix_of_append ?_ before)
      intro letter
      have inside := blank c (by simp)
      have outside := List.all_eq_true.mp no_blank c letter
      rw [inside] at outside
      cases outside
  have split : splitAtFirst '=' (first :: rest ++ gap ++ '=' :: after) =
      some (first :: rest ++ gap, after) := by
    have no_equals : '=' ∉ gap := fun member => absurd (blank _ member) (by decide)
    have absent : '=' ∉ first :: rest ++ gap := by
      rw [List.mem_append, not_or]
      exact ⟨isTag.no_equals, no_equals⟩
    exact splitAtFirst_append absent after
  have tag_eq : trim (first :: rest ++ gap) = first :: rest := by
    have nothing : IsBlank [] := by decide
    have alone := trim_surrounded nothing blank (first :: rest)
    rwa [isTag.trimmed.trim_eq] at alone
  unfold Line.ofTrimmed
  simp only [no_include, split, tag_eq]
  simp at no_mark
  simp [no_mark]

/-- A line says the same whatever its indentation. -/
theorem understood_indented {indent : List Char} (blank : IsBlank indent) (content : List Char) :
    understood (indent ++ content) = understood content := by
  rw [understood, trim_indented blank, understood]

/-- Blanks around a line do not matter. -/
theorem understood_surrounded {before after : List Char} (blank_before : IsBlank before)
    (blank_after : IsBlank after) (content : List Char) :
    understood (before ++ content ++ after) = understood content := by
  rw [understood, trim_surrounded blank_before blank_after, understood]

/-- A tag with something assigned to it says so, whatever blanks there are around the equals
sign. -/
theorem understood_spaced (tag : Tag) {value gap gap' : List Char} (trimmed : IsTrimmed value)
    (blank : IsBlank gap) (blank' : IsBlank gap') :
    understood (tag.chars ++ gap ++ '=' :: (gap' ++ value)) =
      if value = ['\x7b'] then .subsection tag.chars else .relation tag.chars value := by
  have start : IsTrimmed (tag.chars ++ gap ++ ['=']) := by
    refine ⟨?_, by simp [isBlank]⟩
    obtain ⟨first, rest, chars_eq⟩ := List.exists_cons_of_ne_nil tag.isTag.ne_nil
    have kept := tag.isTag.trimmed.1
    rw [chars_eq] at kept ⊢
    exact kept
  have line_eq : tag.chars ++ gap ++ '=' :: (gap' ++ value) =
      tag.chars ++ gap ++ ['='] ++ (gap' ++ value) := by simp
  have value_eq : trim (dropEndWhile isBlank (gap' ++ value)) = value := by
    cases last : value.getLast? with
    | none =>
      have none_left := dropEndWhile_append_of_all blank' []
      rw [List.getLast?_eq_none_iff.mp last, List.append_nil]
      rw [List.nil_append] at none_left
      rw [none_left]
      rfl
    | some c =>
      have ends : (gap' ++ value).getLast? = some c := by simp [last]
      have whole := dropEndWhile_append ends (trimmed.2 c last) []
      rw [List.append_nil] at whole
      rw [whole]
      have spaced := trim_indented blank' value
      simpa [dropEndWhile, trimmed.trim_eq] using spaced
  rw [understood, line_eq, start.trim_append (by simp), List.append_assoc, List.singleton_append,
    ofTrimmed_assignment tag.isTag blank, value_eq]

/-- The line of a tag says what is assigned to it. -/
theorem understood_assigned (tag : Tag) {value : List Char} (trimmed : IsTrimmed value) :
    understood (tag.assigned value) =
      if value = ['\x7b'] then .subsection tag.chars else .relation tag.chars value := by
  have space : IsBlank [' '] := by decide
  rw [← understood_spaced tag trimmed space space]
  simp [Tag.assigned]

/-- Brackets make a header, whatever blanks there are in them around the name. -/
theorem understood_bracketed (content : List Char) :
    understood ('[' :: (content ++ [']'])) = .header (trim content) := by
  have trimmed : IsTrimmed ('[' :: (content ++ [']'])) := by
    simp [IsTrimmed, isBlank, List.getLast?_cons]
  have inside : (content ++ [']']).dropLast = content := List.dropLast_concat
  rw [understood, trimmed.trim_eq]
  simp [Line.ofTrimmed, inside, List.getLast?_cons]

/-- The header line of a section says its name. -/
theorem understood_header (name : Name) : understood name.header = .header name.chars := by
  rw [Name.header, understood_bracketed, name.trimmed.trim_eq]

/-- A closing brace closes a subsection. -/
theorem understood_close : understood ['\x7d'] = .close := by decide

/-- A line says nothing. -/
def Line.isSilent : Line → Bool
  | .skipped | .includes _ => true
  | _ => false

/-- An aside says nothing. -/
theorem isSilent_of_isAside {line : List Char} (isAside : IsAside line) :
    (understood line).isSilent = true := by
  cases isAside with
  | blank line isBlank => rw [understood, trim_of_blank isBlank]; rfl
  | comment indent isBlank mark marks rest =>
    have trimmed : IsTrimmed [mark] := by
      rcases List.mem_cons.mp marks with rfl | marks
      · decide
      · rw [List.mem_singleton.mp marks]
        decide
    have kept := trimmed.trim_append (by simp) rest
    rw [List.singleton_append] at kept
    rw [understood_indented isBlank, understood, kept]
    simp at marks
    simp [Line.ofTrimmed, marks, Line.isSilent]
  | includes indent isBlank rest =>
    have trimmed : IsTrimmed "include".toList := by decide
    rw [understood_indented isBlank, understood, trimmed.trim_append (by decide)]
    simp [Line.ofTrimmed, Line.isSilent]

/-! ## The lines of a rendering -/

/-- What a laid out text says. -/
def told (layout : List (List Char)) : List Line :=
  (layout.map understood).filter (fun line => !line.isSilent)

/-- What lines say is what the first one says and then what the others say. -/
theorem told_cons (line : List Char) (rest : List (List Char)) :
    told (line :: rest) = told [line] ++ told rest := by
  rw [told, List.map_cons, ← List.singleton_append, List.filter_append]
  rfl

/-- Empty lines say nothing. -/
theorem told_fullLines (layout : List (List Char)) : told (fullLines layout) = told layout := by
  induction layout with
  | nil => rfl
  | cons line rest ih =>
    rw [told_cons, ← ih]
    cases line with
    | nil => rfl
    | cons c line => exact told_cons (c :: line) (fullLines rest)

/-- A layout says what the lines laid out say. -/
theorem LaysOut.told_eq {contents layout : List (List Char)} (laysOut : LaysOut contents layout) :
    told layout = told contents := by
  induction laysOut with
  | nothing => rfl
  | aside line isAside _ _ ih =>
    have silent : told [line] = [] := by simp [told, isSilent_of_isAside isAside]
    rw [told_cons, silent, ih, List.nil_append]
  | line content before after blank_before blank_after _ _ ih =>
    have same : told [before ++ content ++ after] = told [content] := by
      simp only [told, List.map_singleton, understood_surrounded blank_before blank_after]
    rw [told_cons, same, ih, ← told_cons]

/-- A layout of lines consists of lines. -/
theorem LaysOut.isLine {contents layout : List (List Char)} (laysOut : LaysOut contents layout)
    (isLine : ∀ content ∈ contents, IsLine content) : ∀ line ∈ layout, IsLine line := by
  induction laysOut with
  | nothing => exact isLine
  | aside line _ isAside _ ih => exact List.forall_mem_cons.mpr ⟨isAside, ih isLine⟩
  | line content before after _ _ isAround _ ih =>
    obtain ⟨isContent, isRest⟩ := List.forall_mem_cons.mp isLine
    obtain ⟨isBefore, isAfter⟩ := List.forall_mem_append.mp isAround
    refine List.forall_mem_cons.mpr ⟨?_, ih isRest⟩
    exact List.forall_mem_append.mpr ⟨List.forall_mem_append.mpr ⟨isBefore, isContent⟩, isAfter⟩

/-- A tag with something assigned to it in one line is a line. -/
theorem isLine_assigned (tag : Tag) {value : List Char} (isLine : IsLine value) :
    IsLine (tag.assigned value) := by
  have middle : IsLine " = ".toList := by decide
  exact List.forall_mem_append.mpr
    ⟨List.forall_mem_append.mpr ⟨tag.isTag.isLine, middle⟩, isLine⟩

mutual
/-- An item is written in lines. -/
theorem Item.isLine (item : Item) : ∀ line ∈ item.lines, IsLine line := by
  cases item with
  | relation tag value =>
    rw [Item.lines, List.forall_mem_singleton]
    exact isLine_assigned tag value.isLine
  | subsection tag items =>
    rw [Item.lines, List.forall_mem_cons, List.forall_mem_append, List.forall_mem_singleton]
    exact ⟨isLine_assigned tag (by decide), isLine_linesOfAll items, by decide⟩

/-- Items are written in lines. -/
theorem isLine_linesOfAll (items : List Item) : ∀ line ∈ linesOfAll items, IsLine line := by
  cases items with
  | nil => simp [linesOfAll]
  | cons item rest =>
    rw [linesOfAll, List.forall_mem_append]
    exact ⟨item.isLine, isLine_linesOfAll rest⟩
end

/-- A document is written in lines. -/
theorem Document.isLine (document : Document) : ∀ line ∈ document.lines, IsLine line := by
  intro line member
  obtain ⟨block, _, inside⟩ := List.mem_flatMap.mp member
  rcases List.mem_cons.mp inside with rfl | inside
  · intro c member
    have isName := block.name.isLine c
    simp only [Name.header, List.mem_cons, List.mem_append, List.not_mem_nil, or_false] at member
    rcases member with rfl | member | rfl
    · decide
    · exact isName member
    · decide
  · exact isLine_linesOfAll block.items line inside

end SignOn.Profile
