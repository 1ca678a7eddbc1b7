import Mathlib.Data.List.Basic
import SignOn.Ace.HostName

/-!
# Host names label by label

Names of ASCII characters are kept, and in others labels are encoded, but a name of either kind
comes to the same. Main statement: the ASCII-compatible form of a host name is that of its labels
with points between them, where an empty last label stays empty (`toAscii_eq`).
-/

set_option autoImplicit false

namespace SignOn.Ace

open Text

/-! ## Labels -/

section Pieces

variable {isSeparator : Char → Bool}

/-- A text has at least one piece. -/
theorem pieces_ne_nil (text : List Char) : pieces isSeparator text ≠ [] := by
  cases text with
  | nil => simp [pieces]
  | cons c rest =>
    rw [pieces]
    split
    · simp
    · split <;> simp

/-- What the first character does: a separator is a piece of its own in front, and any other
character makes the first piece longer, which may be the last one. -/
theorem pieces_cons_cases {c : Char} {rest last : List Char} {earlier : List (List Char)}
    (split : pieces isSeparator (c :: rest) = earlier ++ [last]) :
    (isSeparator c = true ∧
        ∃ others, earlier = [] :: others ∧ pieces isSeparator rest = others ++ [last]) ∨
      (isSeparator c = false ∧
        ∃ first, earlier = [] ∧ last = c :: first ∧ pieces isSeparator rest = [] ++ [first]) ∨
      (isSeparator c = false ∧ ∃ first others, earlier = (c :: first) :: others ∧
        pieces isSeparator rest = (first :: others) ++ [last]) := by
  obtain ⟨first, others, split_rest⟩ : ∃ first others, pieces isSeparator rest = first :: others :=
    List.exists_cons_of_ne_nil (pieces_ne_nil rest)
  cases separates : isSeparator c with
  | true =>
    rw [pieces, if_pos separates] at split
    cases earlier with
    | nil => exact absurd (List.cons.inj split).2 (pieces_ne_nil rest)
    | cons piece more =>
      obtain ⟨rfl, shorter⟩ := List.cons.inj split
      exact .inl ⟨rfl, more, rfl, shorter⟩
  | false =>
    simp only [pieces, separates, Bool.false_eq_true, if_false, split_rest] at split
    cases earlier with
    | nil =>
      obtain ⟨rfl, rfl⟩ := List.cons.inj split
      exact .inr (.inl ⟨rfl, first, rfl, rfl, split_rest⟩)
    | cons piece more =>
      obtain ⟨rfl, rfl⟩ := List.cons.inj split
      exact .inr (.inr ⟨rfl, first, more, rfl, split_rest⟩)

/-- The only piece of the empty text is empty. -/
theorem pieces_nil_cases {last : List Char} {earlier : List (List Char)}
    (split : pieces isSeparator [] = earlier ++ [last]) : earlier = [] ∧ last = [] := by
  have parts := List.append_inj' (show [] ++ [[]] = earlier ++ [last] from split) rfl
  exact ⟨parts.1.symm, (List.cons.inj parts.2).1.symm⟩

/-- Characters at the end that are no separators belong to the last piece. -/
theorem pieces_append {ending : List Char} (whole : ∀ c ∈ ending, isSeparator c = false)
    {text last : List Char} {earlier : List (List Char)}
    (split : pieces isSeparator text = earlier ++ [last]) :
    pieces isSeparator (text ++ ending) = earlier ++ [last ++ ending] := by
  induction text generalizing earlier last with
  | nil =>
    obtain ⟨rfl, rfl⟩ := pieces_nil_cases split
    induction ending with
    | nil => rfl
    | cons c rest ih =>
      obtain ⟨inside, others⟩ := List.forall_mem_cons.mp whole
      have alone : pieces isSeparator rest = [rest] := ih others
      simp [pieces, inside, alone]
  | cons c rest ih =>
    rcases pieces_cons_cases split with
      ⟨separates, others, rfl, shorter⟩ | ⟨inside, first, rfl, rfl, alone⟩ |
      ⟨inside, first, others, rfl, shorter⟩
    · simp [pieces, separates, ih shorter]
    · simp [pieces, inside, ih alone]
    · simp [pieces, inside, ih shorter]

/-- Pieces that points separate make up the text, with points between them. -/
theorem flatMap_pieces {text last : List Char} {earlier : List (List Char)}
    (points : ∀ c ∈ text, isSeparator c = true → c = '.')
    (split : pieces isSeparator text = earlier ++ [last]) :
    earlier.flatMap (· ++ ['.']) ++ last = text := by
  induction text generalizing earlier last with
  | nil =>
    obtain ⟨rfl, rfl⟩ := pieces_nil_cases split
    rfl
  | cons c rest ih =>
    obtain ⟨point, points⟩ := List.forall_mem_cons.mp points
    rcases pieces_cons_cases split with
      ⟨separates, others, rfl, shorter⟩ | ⟨_, first, rfl, rfl, alone⟩ |
      ⟨_, first, others, rfl, shorter⟩
    · rw [point separates, List.flatMap_cons, List.append_assoc, ih points shorter]
      rfl
    · exact congrArg (c :: ·) (ih points alone)
    · exact congrArg (c :: ·) (ih points shorter)

/-- Marks that separate a text in the same places give the same pieces. -/
theorem pieces_congr {isSeparator' : Char → Bool} {text : List Char}
    (same : ∀ c ∈ text, isSeparator c = isSeparator' c) :
    pieces isSeparator text = pieces isSeparator' text := by
  induction text with
  | nil => rfl
  | cons c rest ih =>
    obtain ⟨first, others⟩ := List.forall_mem_cons.mp same
    rw [pieces, pieces, first, ih others]

end Pieces

/-- All labels of a name but the last. -/
def earlierLabels (name : List Char) : List (List Char) := (pieces isLabelSeparator name).dropLast

/-- The last label of a name, possibly empty. -/
def lastLabel (name : List Char) : List Char := (pieces isLabelSeparator name).getLast?.getD []

/-- The pieces of a name are its labels. -/
theorem pieces_eq_labels (name : List Char) :
    pieces isLabelSeparator name = earlierLabels name ++ [lastLabel name] := by
  have full : pieces isLabelSeparator name ≠ [] := pieces_ne_nil name
  rw [earlierLabels, lastLabel, List.getLast?_eq_some_getLast full, Option.getD_some,
    List.dropLast_append_getLast]

section Ending

variable {ending : List Char} (whole : ∀ c ∈ ending, isLabelSeparator c = false)
  (name : List Char)

include whole

/-- An ending without separators leaves all labels but the last as they are. -/
theorem earlierLabels_append : earlierLabels (name ++ ending) = earlierLabels name := by
  rw [earlierLabels, pieces_append whole (pieces_eq_labels name), List.dropLast_concat]

/-- An ending without separators belongs to the last label. -/
theorem lastLabel_append : lastLabel (name ++ ending) = lastLabel name ++ ending := by
  rw [lastLabel, pieces_append whole (pieces_eq_labels name), List.getLast?_concat,
    Option.getD_some]

end Ending

/-! ## Names label by label -/

/-- The form of the last label of a name, which may be empty. -/
def lastForm (label : List Char) : Except NameError (List Char) :=
  if label = [] then .ok [] else encodedLabel label

/-- The forms of the labels of a name, with a point behind all but the last. -/
def labelwise (name : List Char) : Except NameError (List Char) := do
  let earlier ← (earlierLabels name).mapM encodedLabel
  let last ← lastForm (lastLabel name)
  return earlier.flatMap (· ++ ['.']) ++ last

/-- An ASCII label is its own form, if its size is right. -/
theorem encodedLabel_of_isAscii {label : List Char} (ascii : isAscii label = true) :
    encodedLabel label = sizedLabel label := by
  rw [encodedLabel, if_pos ascii]

/-- Labels of ASCII characters are kept, if they all have a permitted size. -/
theorem mapM_encodedLabel_of_isAscii {labels : List (List Char)}
    (ascii : ∀ label ∈ labels, isAscii label = true) :
    labels.mapM encodedLabel =
      if labels.all (fun label => 0 < label.length && label.length < 64) then .ok labels
      else .error .labelSize := by
  induction labels with
  | nil => rfl
  | cons label rest ih =>
    obtain ⟨first, others⟩ := List.forall_mem_cons.mp ascii
    rw [List.mapM_cons, encodedLabel_of_isAscii first, ih others, sizedLabel, List.all_cons]
    by_cases sized : 0 < label.length ∧ label.length < 64
    · by_cases all : rest.all (fun label => 0 < label.length && label.length < 64) = true
      · simp only [sized, all]
        rfl
      · simp only [sized, all]
        rfl
    · have not_sized : (decide (0 < label.length) && decide (label.length < 64)) = false := by
        simpa using sized
      rw [if_neg sized, not_sized]
      rfl

/-- The last label, if it is ASCII, is its own form unless it is too long. -/
theorem lastForm_of_isAscii {label : List Char} (ascii : isAscii label = true) :
    lastForm label = if label.length < 64 then .ok label else .error .labelSize := by
  unfold lastForm
  split
  · rename_i empty
    rw [empty]
    rfl
  · rename_i full
    rw [encodedLabel_of_isAscii ascii, sizedLabel]
    simp [List.length_pos_iff.mpr full]

/-- A text is ASCII if both of its parts are. -/
theorem isAscii_append (first second : List Char) :
    isAscii (first ++ second) = (isAscii first && isAscii second) := List.all_append

/-- In a name of ASCII characters the labels are kept, and so is the name. -/
theorem asciiName_eq_labelwise {name : List Char} (ascii : isAscii name = true) :
    asciiName name = labelwise name := by
  -- among ASCII characters the point is the only separator
  have separator : ∀ c ∈ name, (c == '.') = isLabelSeparator c := by
    intro c member
    rw [isAscii, List.all_eq_true] at ascii
    have small := of_decide_eq_true (ascii c member)
    rw [Bool.eq_iff_iff]
    simp only [isLabelSeparator, Bool.or_eq_true, beq_iff_eq]
    constructor
    · intro point
      exact .inl (.inl (.inl point))
    · rintro (((point | rfl) | rfl) | rfl)
      · exact point
      all_goals exact absurd small (by decide)
  have labels := pieces_eq_labels name
  have joined : (earlierLabels name).flatMap (· ++ ['.']) ++ lastLabel name = name := by
    refine flatMap_pieces (fun c member separates => ?_) labels
    rwa [← separator c member, beq_iff_eq] at separates
  have ascii_parts := ascii
  rw [← joined, isAscii_append, Bool.and_eq_true] at ascii_parts
  obtain ⟨ascii_earlier, ascii_last⟩ := ascii_parts
  have ascii_labels : ∀ label ∈ earlierLabels name, isAscii label = true := by
    intro label member
    rw [isAscii, List.all_eq_true] at ascii_earlier ⊢
    intro c inside
    exact ascii_earlier c (List.mem_flatMap.mpr ⟨label, member, List.mem_append_left _ inside⟩)
  rw [labelwise, mapM_encodedLabel_of_isAscii ascii_labels, lastForm_of_isAscii ascii_last,
    asciiName, pieces_congr separator, labels]
  simp only [List.dropLast_concat, List.getLast?_concat, Option.getD_some]
  cases (earlierLabels name).all (fun label => 0 < label.length && label.length < 64) with
  | false => rfl
  | true =>
    by_cases short : (lastLabel name).length < 64
    · simp only [short, decide_true, Bool.and_true, if_true]
      exact congrArg Except.ok joined.symm
    · simp only [short, decide_false, Bool.and_false]
      rfl

/-- Joined labels are all labels with a point behind each and then the last one. -/
theorem joinedLabels_concat (labels : List (List Char)) (last : List Char) :
    joinedLabels (labels ++ [last]) = labels.flatMap (· ++ ['.']) ++ last := by
  induction labels with
  | nil => rfl
  | cons label rest ih =>
    obtain ⟨next, others, split⟩ := List.exists_cons_of_ne_nil
      (List.append_ne_nil_of_right_ne_nil rest (List.cons_ne_nil last []))
    rw [List.cons_append, split, joinedLabels, ← split, ih, List.flatMap_cons, List.append_assoc,
      List.append_assoc]
    · rfl
    · exact List.cons_ne_nil next others

/-- Where there are labels there are forms. -/
theorem ne_nil_of_mapM_eq_ok {labels forms : List (List Char)} (full : labels ≠ [])
    (encodes : labels.mapM encodedLabel = .ok forms) : forms ≠ [] := by
  obtain ⟨label, rest, rfl⟩ := List.exists_cons_of_ne_nil full
  rw [List.mapM_cons] at encodes
  cases first : encodedLabel label with
  | error error =>
    rw [first] at encodes
    cases encodes
  | ok form =>
    cases others : rest.mapM encodedLabel with
    | error error =>
      rw [first, others] at encodes
      cases encodes
    | ok forms =>
      rw [first, others] at encodes
      cases encodes
      exact List.cons_ne_nil form forms

/-- A name whose last label is empty has others. -/
theorem earlierLabels_ne_nil {name : List Char} (full : name ≠ []) (empty : lastLabel name = []) :
    earlierLabels name ≠ [] := by
  intro nothing
  have labels := pieces_eq_labels name
  rw [nothing, empty] at labels
  obtain ⟨c, rest, rfl⟩ := List.exists_cons_of_ne_nil full
  rcases pieces_cons_cases labels with
    ⟨_, _, none, _⟩ | ⟨_, _, _, none, _⟩ | ⟨_, _, _, none, _⟩ <;> cases none

/-- In any other name the labels are encoded one by one. -/
theorem encodedName_eq_labelwise {name : List Char} (full : name ≠ []) :
    encodedName name = labelwise name := by
  have labels := pieces_eq_labels name
  rw [encodedName, labelwise, labels]
  simp only [List.getLast?_concat, List.dropLast_concat, Option.some.injEq, lastForm]
  -- where the last label is empty the name ends in a point, and so does its form
  by_cases empty : lastLabel name = []
  · simp only [empty, if_true]
    cases encodes : (earlierLabels name).mapM encodedLabel with
    | error error => rfl
    | ok forms =>
      have others := ne_nil_of_mapM_eq_ok (earlierLabels_ne_nil full empty) encodes
      obtain ⟨before, form, rfl⟩ := (List.eq_nil_or_concat' forms).resolve_left others
      have pointed : joinedLabels (before ++ [form]) ++ ['.'] =
          (before ++ [form]).flatMap (· ++ ['.']) ++ [] := by
        rw [joinedLabels_concat, List.flatMap_append, List.flatMap_singleton, List.append_nil,
          List.append_assoc]
      exact congrArg Except.ok pointed
  · simp only [empty, if_false, List.mapM_append]
    cases (earlierLabels name).mapM encodedLabel with
    | error error => rfl
    | ok forms =>
      rw [List.mapM_cons, List.mapM_nil]
      cases encodedLabel (lastLabel name) with
      | error error => rfl
      | ok form =>
        have last_empty : joinedLabels (forms ++ [form]) ++ [] =
            forms.flatMap (· ++ ['.']) ++ form := by
          rw [List.append_nil, joinedLabels_concat]
        exact congrArg Except.ok last_empty

/-- The form of a host name is that of its labels. -/
theorem toAscii_eq (host : String) :
    toAscii host = (labelwise host.toList).map String.ofList := by
  unfold toAscii
  dsimp only
  cases empty : host.toList with
  | nil =>
    rw [String.toList_eq_nil_iff.mp empty]
    rfl
  | cons c rest =>
    rw [← empty]
    have full : host.toList ≠ [] := by simp [empty]
    have not_empty : host.toList.isEmpty = false := by simpa using full
    rw [not_empty]
    simp only [Bool.false_eq_true, if_false]
    split
    · rename_i ascii
      rw [asciiName_eq_labelwise ascii]
    · rw [encodedName_eq_labelwise full]

end SignOn.Ace
