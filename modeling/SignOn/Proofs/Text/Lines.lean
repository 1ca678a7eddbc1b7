import SignOn.Text.Blank

/-!
# Trimmed texts and divided texts

What trimming leaves of a text with blanks around it (`trim_surrounded`), and how a text that was
put together from lines is divided again. Main statements: whatever the line ends, and whether or
not the last line has one, the lines that are not empty come back in order
(`IsWritten.fullLines_eq`), and a line feed between two texts divides the lines of the one from
those of the other (`lines_append_newline`).
-/

set_option autoImplicit false

namespace SignOn.Text

/-! ## Trimming -/

/-- A text of blanks only. -/
def IsBlank (text : List Char) : Prop := ∀ c ∈ text, isBlank c = true

/-- A text with no blank at either end. -/
def IsTrimmed (text : List Char) : Prop :=
  (∀ c ∈ text.head?, isBlank c = false) ∧ ∀ c ∈ text.getLast?, isBlank c = false

/-- Whether a text is blank can be decided. -/
instance (text : List Char) : Decidable (IsBlank text) :=
  List.decidableBAll (isBlank · = true) text

/-- Whether a text is trimmed can be decided. -/
instance (text : List Char) : Decidable (IsTrimmed text) :=
  @instDecidableAnd _ _ (Option.decidableForallMem text.head?)
    (Option.decidableForallMem text.getLast?)

/-- What is to be dropped at the end may be followed by more of it. -/
theorem dropEndWhile_append_of_all {drops : Char → Bool} {after : List Char}
    (all : ∀ c ∈ after, drops c = true) (text : List Char) :
    dropEndWhile drops (text ++ after) = dropEndWhile drops text := by
  have all_reverse : ∀ c ∈ after.reverse, drops c = true := by
    intro c member
    exact all c (List.mem_reverse.mp member)
  rw [dropEndWhile, List.reverse_append, List.dropWhile_append_of_pos all_reverse, dropEndWhile]

/-- Blanks before a text do not survive at its start. -/
theorem trimStart_append_of_blank {before : List Char} (blank : IsBlank before)
    (text : List Char) : trimStart (before ++ text) = trimStart text :=
  List.dropWhile_append_of_pos blank

/-- Of blanks nothing is left at the start. -/
theorem trimStart_of_blank {text : List Char} (blank : IsBlank text) : trimStart text = [] := by
  have start := trimStart_append_of_blank blank []
  rwa [List.append_nil] at start

/-- Of blanks nothing is left. -/
theorem trim_of_blank {text : List Char} (blank : IsBlank text) : trim text = [] := by
  rw [trim, trimStart_of_blank blank]
  rfl

/-- Blanks before a text are trimmed away. -/
theorem trim_indented {before : List Char} (blank : IsBlank before) (text : List Char) :
    trim (before ++ text) = trim text := by
  rw [trim, trimStart_append_of_blank blank, trim]

/-- Blanks around a text are trimmed away with those of the text itself. -/
theorem trim_surrounded {before after : List Char} (blank_before : IsBlank before)
    (blank_after : IsBlank after) (text : List Char) :
    trim (before ++ text ++ after) = trim text := by
  rw [List.append_assoc, trim_indented blank_before, trim, trim]
  cases start : trimStart text with
  | nil =>
    have nothing : trimStart (text ++ after) = [] := by
      have after_start := trimStart_of_blank blank_after
      rw [trimStart] at start after_start
      simp [trimStart, List.dropWhile_append, start, after_start]
    rw [nothing]
  | cons first rest =>
    have longer : trimStart (text ++ after) = first :: rest ++ after := by
      rw [trimStart] at start
      simp [trimStart, List.dropWhile_append, start]
    rw [longer, dropEndWhile_append_of_all blank_after]

/-- If the last character of a text is kept, something is dropped only behind it. -/
theorem dropEndWhile_append {drops : Char → Bool} {text : List Char} {last : Char}
    (ends : text.getLast? = some last) (kept : drops last = false) (after : List Char) :
    dropEndWhile drops (text ++ after) = text ++ dropEndWhile drops after := by
  obtain ⟨before, rfl⟩ := List.getLast?_eq_some_iff.mp ends
  rw [dropEndWhile, dropEndWhile, List.reverse_append, List.dropWhile_append]
  by_cases nothing : (after.reverse.dropWhile drops).isEmpty
  · have none_left := List.isEmpty_iff.mp nothing
    simp [none_left, kept]
  · simp [nothing]

/-- All that is dropped at the end of a text satisfies `drops`. -/
theorem exists_eq_dropEndWhile_append (drops : Char → Bool) (text : List Char) :
    ∃ after, (∀ c ∈ after, drops c = true) ∧ text = dropEndWhile drops text ++ after := by
  refine ⟨(text.reverse.takeWhile drops).reverse, ?_, ?_⟩
  · intro c member
    exact List.all_eq_true.mp List.all_takeWhile c (List.mem_reverse.mp member)
  · rw [dropEndWhile, ← List.reverse_append, List.takeWhile_append_dropWhile, List.reverse_reverse]

/-- What is left of a text does not end with a character that is dropped. -/
theorem drops_eq_false_of_getLast? {drops : Char → Bool} {text : List Char} {c : Char}
    (last : (dropEndWhile drops text).getLast? = some c) : drops c = false := by
  rw [dropEndWhile, List.getLast?_reverse] at last
  simpa [last] using List.head?_dropWhile_not drops text.reverse

/-- What follows a text with no blank at either end is trimmed by itself. -/
theorem IsTrimmed.trim_append {text : List Char} (trimmed : IsTrimmed text) (full : text ≠ [])
    (after : List Char) : trim (text ++ after) = text ++ dropEndWhile isBlank after := by
  obtain ⟨first, rest, rfl⟩ := List.exists_cons_of_ne_nil full
  have start : trimStart (first :: rest ++ after) = first :: rest ++ after := by
    have kept : isBlank first = false := trimmed.1 first rfl
    simp [trimStart, kept]
  have ends := List.getLast?_eq_some_getLast full
  rw [trim, start, dropEndWhile_append ends (trimmed.2 _ ends)]

/-- Trimming leaves no blank at either end. -/
theorem isTrimmed_trim (text : List Char) : IsTrimmed (trim text) := by
  refine ⟨fun c first => ?_, fun c last => drops_eq_false_of_getLast? last⟩
  -- what is left begins like the text without the blanks at its start
  obtain ⟨after, _, start_eq⟩ := exists_eq_dropEndWhile_append isBlank (trimStart text)
  have begins : (trimStart text).head? = some c := by
    rw [start_eq, List.head?_append, ← trim, Option.mem_def.mp first, Option.some_or]
  rw [trimStart] at begins
  simpa [begins] using List.head?_dropWhile_not isBlank text

/-- A trimmed text stays as it is. -/
theorem IsTrimmed.trim_eq {text : List Char} (trimmed : IsTrimmed text) : trim text = text := by
  by_cases full : text = []
  · rw [full]
    rfl
  · have same := trimmed.trim_append full []
    rw [List.append_nil] at same
    rw [same]
    exact List.append_nil text

/-! ## Lines -/

/-- A line, or a part of one: a text in which nothing ends a line. -/
def IsLine (text : List Char) : Prop := ∀ c ∈ text, isLineEnd c = false

/-- Whether a text is a line can be decided. -/
instance (text : List Char) : Decidable (IsLine text) :=
  List.decidableBAll (isLineEnd · = false) text

/-- What can stand at the end of a line. -/
inductive IsLineEnding : List Char → Prop where
  | single (c : Char) (ends : isLineEnd c = true) : IsLineEnding [c]
  | pair : IsLineEnding ['\r', '\n']

/-- A text is written in lines, each with some line end; the last may have none. -/
inductive IsWritten : List (List Char) → List Char → Prop where
  | nothing : IsWritten [] []
  | unended (line : List Char) : IsWritten [line] line
  | ended (line ending : List Char) (isEnding : IsLineEnding ending) {rest : List (List Char)}
    {text : List Char} (written : IsWritten rest text) :
    IsWritten (line :: rest) (line ++ ending ++ text)

/-- A text that begins with the end of a line begins with an empty line. -/
theorem lines_cons_of_end {c : Char} (ends : isLineEnd c = true) (text : List Char)
    (apart : c = '\r' → text.head? ≠ some '\n') : lines (c :: text) = [] :: lines text := by
  rw [lines.eq_3, if_pos ends]
  rintro rest rfl rfl
  exact apart rfl rfl

/-- A character that ends no line belongs to the first line. -/
theorem lines_cons_of_not_end {c : Char} (inside : isLineEnd c = false) (text : List Char) :
    lines (c :: text) = ((lines text).headD []).cons c :: (lines text).tail := by
  rw [lines.eq_3]
  · rw [inside]
    cases lines text <;> rfl
  · rintro rest rfl rfl
    exact absurd inside (by decide)

/-- The first line is longer by what is put before it. -/
theorem lines_append {line : List Char} (isLine : IsLine line) {text first : List Char}
    {rest : List (List Char)} (divided : lines text = first :: rest) :
    lines (line ++ text) = (line ++ first) :: rest := by
  induction line with
  | nil => exact divided
  | cons c line ih =>
    obtain ⟨inside, isLine⟩ := List.forall_mem_cons.mp isLine
    rw [List.cons_append, lines_cons_of_not_end inside, ih isLine]
    rfl

/-- A line that is not empty is the only line in it. -/
theorem lines_of_isLine {line : List Char} (isLine : IsLine line) (full : line ≠ []) :
    lines line = [line] := by
  rcases List.eq_nil_or_concat line with rfl | ⟨before, last, rfl⟩
  · exact absurd rfl full
  · rw [List.concat_eq_append] at isLine ⊢
    obtain ⟨isBefore, isLast⟩ := List.forall_mem_append.mp isLine
    rw [List.forall_mem_singleton] at isLast
    have single : lines [last] = [[last]] := lines_cons_of_not_end isLast []
    exact lines_append isBefore single

/-- Only the empty text has no lines. -/
theorem eq_nil_of_lines_eq_nil {text : List Char} (nothing : lines text = []) : text = [] := by
  fun_cases lines text with
  | case1 => rfl
  | case2 | case3 | case4 | case5 => simp_all [lines]

/-- The lines of two texts with a line feed between them are those of the one and then those of the
other. If the first text is empty or ends in a line end, the line feed ends an empty line. -/
theorem lines_append_newline (first second : List Char) :
    ∃ gap, lines (first ++ '\n' :: second) = lines first ++ (gap ++ lines second) ∧
      ∀ line ∈ gap, line = [] := by
  induction first using lines.induct with
  | case1 =>
    have apart : '\n' = '\r' → second.head? ≠ some '\n' := fun same => absurd same (by decide)
    exact ⟨[[]], lines_cons_of_end rfl second apart, by simp⟩
  | case2 rest ih =>
    obtain ⟨gap, divided, empty⟩ := ih
    exact ⟨gap, congrArg ([] :: ·) divided, empty⟩
  | case3 c rest apart ends ih =>
    by_cases pair : c = '\r' ∧ rest = []
    · -- the line feed belongs to the line end of the first text
      obtain ⟨rfl, rfl⟩ := pair
      exact ⟨[], rfl, by simp⟩
    · have apart_rest : c = '\r' → rest.head? ≠ some '\n' := by
        rintro rfl starts
        obtain ⟨others, rfl⟩ := List.head?_eq_some_iff.mp starts
        exact apart others rfl rfl
      have apart_all : c = '\r' → (rest ++ '\n' :: second).head? ≠ some '\n' := by
        intro same
        cases rest with
        | nil => exact absurd ⟨same, rfl⟩ pair
        | cons d others => exact apart_rest same
      obtain ⟨gap, divided, empty⟩ := ih
      refine ⟨gap, ?_, empty⟩
      rw [List.cons_append, lines_cons_of_end ends _ apart_all,
        lines_cons_of_end ends rest apart_rest, divided]
      rfl
  | case4 c rest _ inside nothing ih =>
    rw [Bool.not_eq_true] at inside
    obtain rfl := eq_nil_of_lines_eq_nil nothing
    have apart : '\n' = '\r' → second.head? ≠ some '\n' := fun same => absurd same (by decide)
    refine ⟨[], ?_, by simp⟩
    rw [List.singleton_append, lines_cons_of_not_end inside, lines_cons_of_not_end inside,
      lines_cons_of_end rfl second apart]
    rfl
  | case5 c rest _ inside line others divided ih =>
    obtain ⟨gap, whole, empty⟩ := ih
    rw [Bool.not_eq_true] at inside
    refine ⟨gap, ?_, empty⟩
    rw [List.cons_append, lines_cons_of_not_end inside, lines_cons_of_not_end inside, whole,
      divided]
    rfl

/-- The lines that are not empty. -/
def fullLines (all : List (List Char)) : List (List Char) := all.filter (fun line => !line.isEmpty)

/-- The lines that are not empty are those at the beginning and those behind. -/
theorem fullLines_cons (line : List Char) (rest : List (List Char)) :
    fullLines (line :: rest) = fullLines [line] ++ fullLines rest := by
  rw [← List.singleton_append, fullLines, List.filter_append]
  rfl

/-- A line end divides. Two of them may be one, but then only an empty line is lost. -/
theorem IsLineEnding.divides {ending : List Char} (isEnding : IsLineEnding ending)
    (text : List Char) :
    ∃ later, lines (ending ++ text) = [] :: later ∧ fullLines later = fullLines (lines text) := by
  cases isEnding with
  | pair => exact ⟨lines text, rfl, rfl⟩
  | single c ends =>
    by_cases one : c = '\r' ∧ text.head? = some '\n'
    · obtain ⟨rfl, starts⟩ := one
      obtain ⟨rest, rfl⟩ := List.head?_eq_some_iff.mp starts
      have apart := lines_cons_of_end (c := '\n') rfl rest (fun same => absurd same (by decide))
      exact ⟨lines rest, rfl, by rw [apart]; rfl⟩
    · have apart : c = '\r' → text.head? ≠ some '\n' := fun same starts => one ⟨same, starts⟩
      exact ⟨lines text, lines_cons_of_end ends text apart, rfl⟩

/-- The lines that a text was written in come back, except for empty ones. -/
theorem IsWritten.fullLines_eq {written : List (List Char)} {text : List Char}
    (isWritten : IsWritten written text) (isLine : ∀ line ∈ written, IsLine line) :
    fullLines (lines text) = fullLines written := by
  induction isWritten with
  | nothing => rfl
  | unended line =>
    by_cases full : line = []
    · rw [full]
      rfl
    · rw [lines_of_isLine (isLine line (List.mem_singleton_self line)) full]
  | ended line ending isEnding written ih =>
    rename_i rest text
    obtain ⟨isFirst, isRest⟩ := List.forall_mem_cons.mp isLine
    obtain ⟨later, divided, same⟩ := isEnding.divides text
    rw [List.append_assoc, lines_append isFirst divided, List.append_nil, fullLines_cons, same,
      ih isRest, ← fullLines_cons]

end SignOn.Text
