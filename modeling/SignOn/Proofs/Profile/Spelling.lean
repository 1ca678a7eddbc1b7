import SignOn.Proofs.Profile.Rendering
import Mathlib.Data.List.Forall2

/-!
# Spellings of a document

Within a line blanks are free as well: around the equals sign of a relation or of a subsection that
opens, and around the name in a header. Main statement: however the lines of a document are spelled
and laid out, its flattening is read from them (`read_of_spells`).
-/

set_option autoImplicit false

namespace SignOn.Profile

open Text

/-- A line of a document is spelled with other blanks in it. -/
inductive IsSpelling : List Char → List Char → Prop where
  | same (content : List Char) : IsSpelling content content
  | assigned (tag : Tag) (value gap gap' : List Char) (trimmed : IsTrimmed value)
    (blank : IsBlank gap) (blank' : IsBlank gap') (isLine : IsLine (gap ++ gap')) :
    IsSpelling (tag.assigned value) (tag.chars ++ gap ++ '=' :: (gap' ++ value))
  | header (name : Name) (gap gap' : List Char) (blank : IsBlank gap) (blank' : IsBlank gap')
    (isLine : IsLine (gap ++ gap')) :
    IsSpelling name.header ('[' :: (gap ++ name.chars ++ gap' ++ [']']))

/-- A text spells a document: its lines, with any blanks in them that a line may have, are laid out
in the text. -/
def Spells (text : String) (document : Document) : Prop :=
  ∃ contents layout, List.Forall₂ IsSpelling document.lines contents ∧
    LaysOut contents layout ∧ IsWritten layout text.toList

/-- Other blanks do not change how a line is understood. -/
theorem IsSpelling.understood_eq {content line : List Char} (isSpelling : IsSpelling content line) :
    understood line = understood content := by
  cases isSpelling with
  | same => rfl
  | assigned tag value gap gap' trimmed blank blank' =>
    rw [understood_spaced tag trimmed blank blank', understood_assigned tag trimmed]
  | header name gap gap' blank blank' =>
    rw [understood_bracketed, trim_surrounded blank blank', understood_header,
      name.trimmed.trim_eq]

/-- Other blanks do not end a line. -/
theorem IsSpelling.isLine {content line : List Char} (isSpelling : IsSpelling content line)
    (isContent : IsLine content) : IsLine line := by
  intro c member
  cases isSpelling with
  | same => exact isContent c member
  | assigned tag value gap gap' _ _ _ isLine =>
    have kept := isContent c
    have new := isLine c
    simp only [Tag.assigned, List.mem_append, List.mem_cons] at kept new member
    rcases member with (member | member) | rfl | member | member
    · exact kept (.inl (.inl member))
    · exact new (.inl member)
    · decide
    · exact new (.inr member)
    · exact kept (.inr member)
  | header name gap gap' _ _ isLine =>
    have kept := isContent c
    have new := isLine c
    simp only [Name.header, List.mem_append, List.mem_cons] at kept new member
    rcases member with rfl | ((member | member) | member) | member
    · decide
    · exact new (.inl member)
    · exact kept (.inr (.inl member))
    · exact new (.inr member)
    · exact kept (.inr (.inr member))

/-- Lines say the same in every spelling. -/
theorem map_understood_of_spelled {contents spelled : List (List Char)}
    (all : List.Forall₂ IsSpelling contents spelled) :
    spelled.map understood = contents.map understood := by
  induction all with
  | nil => rfl
  | cons isSpelling _ ih => rw [List.map_cons, List.map_cons, isSpelling.understood_eq, ih]

/-- Lines that are spelled with other blanks are still lines. -/
theorem isLine_of_spelled {contents spelled : List (List Char)}
    (all : List.Forall₂ IsSpelling contents spelled)
    (isContent : ∀ content ∈ contents, IsLine content) : ∀ line ∈ spelled, IsLine line := by
  induction all with
  | nil => exact isContent
  | cons isSpelling _ ih =>
    obtain ⟨first, rest⟩ := List.forall_mem_cons.mp isContent
    exact List.forall_mem_cons.mpr ⟨isSpelling.isLine first, ih rest⟩

/-- The profile of a text that spells a document is the document's flattening. -/
theorem read_of_spells {document : Document} {text : String} (spells : Spells text document) :
    read {} text = document.flattened := by
  obtain ⟨contents, layout, all, laysOut, isWritten⟩ := spells
  exact read_of_laysOut laysOut (isLine_of_spelled all document.isLine)
    (map_understood_of_spelled all) isWritten

/-- The text of a document with its lines as they are, each ended by a line feed. -/
def Document.text (document : Document) : String :=
  String.ofList (document.lines.flatMap (· ++ ['\n']))

/-- Lines lay themselves out. -/
theorem laysOut_self (contents : List (List Char)) : LaysOut contents contents := by
  induction contents with
  | nil => exact .nothing
  | cons content rest ih =>
    have first := LaysOut.line content [] [] (by decide) (by decide) (by decide) ih
    rwa [List.nil_append, List.append_nil] at first

/-- A text that ends every line with a line feed is a way to write the lines. -/
theorem isWritten_ended (contents : List (List Char)) :
    IsWritten contents (contents.flatMap (· ++ ['\n'])) := by
  induction contents with
  | nil => exact .nothing
  | cons content rest ih =>
    rw [List.flatMap_cons]
    exact .ended content ['\n'] (.single '\n' rfl) ih

/-- Every document has a text that spells it. -/
theorem spells_text (document : Document) : Spells document.text document := by
  refine ⟨document.lines, document.lines, ?_, laysOut_self _, ?_⟩
  · exact List.forall₂_same.mpr fun line _ => .same line
  · rw [Document.text, String.toList_ofList]
    exact isWritten_ended document.lines

end SignOn.Profile
