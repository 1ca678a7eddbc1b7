import SignOn.Text.Case

/-!
# Characters without letter case

Characters such as the colon and the at sign have no upper case form but themselves, and are the
upper case form of no other character (`isCaseless`). Main statements: upper-casing a text neither
adds nor removes such a character (`mem_upper_iff`), leaves nothing of the empty text only
(`upper_eq_empty_iff`), and keeps the parts between such characters apart
(`exists_split_of_flatMap_upperChar`).
-/

set_option autoImplicit false

namespace SignOn.Text

/-- The upper case tables neither map a code point nor produce it. -/
def isCaseless (point : Nat) : Bool :=
  upperExpansions.all
    (fun entry => entry.1 != point && entry.2.all (fun image => image != point)) &&
  upperRuns.all (fun run => !run.contains point && run.avoidsPoint point)

set_option maxRecDepth 4000 in
/-- The upper case tables have nothing to do with the code points before the letters: blanks,
digits and most of the punctuation that separates parts of names and lines. -/
theorem isCaseless_of_lt {point : Nat} (small : point < 'A'.toNat) : isCaseless point = true := by
  have expansions : upperExpansions.all (fun entry =>
      Nat.ble 'A'.toNat entry.1 && entry.2.all (fun image => Nat.ble 'A'.toNat image)) = true := rfl
  have runs : upperRuns.all (fun run =>
      Nat.ble 'A'.toNat run.first && Nat.ble 'A'.toNat run.target) = true := rfl
  simp only [List.all_eq_true, Bool.and_eq_true, Nat.ble_eq] at expansions runs
  simp only [isCaseless, List.all_eq_true, Bool.and_eq_true, Bool.not_eq_true', bne_iff_ne]
  refine ⟨fun entry mem => ?_, fun run mem => ?_⟩
  · obtain ⟨source, images⟩ := expansions entry mem
    exact ⟨by omega, fun image within => by have letter := images image within; omega⟩
  · obtain ⟨source, target⟩ := runs run mem
    simp only [PointRun.avoidsPoint, PointRun.contains, ← Bool.not_eq_true, Bool.and_eq_true,
      Bool.or_eq_true, Nat.blt_eq, Nat.ble_eq]
    omega

/-- The end of a line has no case. -/
theorem isCaseless_newline : isCaseless '\n'.toNat = true := isCaseless_of_lt (by decide)

/-- The colon has no case. -/
theorem isCaseless_colon : isCaseless ':'.toNat = true := isCaseless_of_lt (by decide)

/-- The at sign has no case. -/
theorem isCaseless_at : isCaseless '@'.toNat = true := isCaseless_of_lt (by decide)

/-- The point has no case. -/
theorem isCaseless_point : isCaseless '.'.toNat = true := isCaseless_of_lt (by decide)

/-- The upper case tables make a caseless code point of itself only. -/
theorem mem_mapPoint_iff {letter : Nat} (caseless : isCaseless letter = true) (point : Nat) :
    letter ∈ mapPoint upperExpansions upperRuns point ↔ point = letter := by
  simp only [isCaseless, Bool.and_eq_true, List.all_eq_true, Bool.not_eq_true',
    bne_iff_ne] at caseless
  obtain ⟨expansions, runs⟩ := caseless
  constructor
  · intro mem
    cases foundEntry : upperExpansions.find? (fun entry => Nat.beq entry.1 point) with
    | some entry =>
      simp only [mapPoint, foundEntry] at mem
      exact absurd rfl ((expansions entry (List.mem_of_find?_eq_some foundEntry)).2 letter mem)
    | none =>
      cases foundRun : upperRuns.find? (fun run => run.contains point) with
      | some run =>
        simp only [mapPoint, foundEntry, foundRun, List.mem_singleton] at mem
        have avoids := (runs run (List.mem_of_find?_eq_some foundRun)).2
        have member := List.find?_some foundRun
        exact absurd mem (PointRun.image_ne avoids member)
      | none =>
        simp only [mapPoint, foundEntry, foundRun, List.mem_singleton] at mem
        exact mem.symm
  · rintro rfl
    rw [mapPoint_eq_self (fun entry mem => (expansions entry mem).1)
      (fun run mem => (runs run mem).1)]
    exact List.mem_singleton_self point

/-- The upper case tables make characters of characters. -/
theorem isValidChar_of_mem_mapPoint {c : Char} {image : Nat}
    (mem : image ∈ mapPoint upperExpansions upperRuns c.toNat) : image.isValidChar := by
  rcases mapPoint_upper c.toNat with unchanged | forms
  · rw [unchanged, List.mem_singleton] at mem
    rw [mem]
    exact c.valid
  · exact (forms image mem).1

/-- A caseless character is in the upper case form of no other character. -/
theorem mem_upperChar_iff {letter : Char} (caseless : isCaseless letter.toNat = true) (c : Char) :
    letter ∈ upperChar c ↔ c = letter := by
  have points := mem_mapPoint_iff caseless c.toNat
  constructor
  · intro mem
    obtain ⟨image, found, rfl⟩ := List.mem_map.mp mem
    have toNat_ofNat : (Char.ofNat image).toNat = image := by
      unfold Char.ofNat
      rw [dif_pos (isValidChar_of_mem_mapPoint found)]
      rfl
    rw [toNat_ofNat] at points
    rw [← points.mp found, Char.ofNat_toNat]
  · rintro rfl
    exact List.mem_map.mpr ⟨c.toNat, points.mpr rfl, Char.ofNat_toNat c⟩

/-- Upper-casing a text neither adds nor removes a caseless character. -/
theorem mem_upper_iff {letter : Char} (caseless : isCaseless letter.toNat = true) (text : String) :
    letter ∈ (upper text).toList ↔ letter ∈ text.toList := by
  simp only [upper, String.toList_ofList, List.mem_flatMap, mem_upperChar_iff caseless]
  constructor
  · rintro ⟨c, mem, rfl⟩
    exact mem
  · intro mem
    exact ⟨letter, mem, rfl⟩

/-- Every character has an upper case form. -/
theorem upperChar_ne_nil (c : Char) : upperChar c ≠ [] := by
  have expansions : upperExpansions.all (fun entry => !entry.2.isEmpty) = true := rfl
  simp only [List.all_eq_true, Bool.not_eq_true', List.isEmpty_eq_false_iff] at expansions
  unfold upperChar mapPoint
  rw [ne_eq, List.map_eq_nil_iff]
  cases foundEntry : upperExpansions.find? (fun entry => Nat.beq entry.1 c.toNat) with
  | some entry => exact expansions entry (List.mem_of_find?_eq_some foundEntry)
  | none => cases upperRuns.find? (fun run => run.contains c.toNat) <;> exact List.cons_ne_nil _ _

/-- Only the empty text has an empty upper case form. -/
theorem upper_eq_empty_iff (text : String) : upper text = "" ↔ text = "" := by
  rw [← String.toList_eq_nil_iff, ← String.toList_eq_nil_iff, upper, String.toList_ofList,
    List.flatMap_eq_nil_iff]
  constructor
  · intro none
    cases chars : text.toList with
    | nil => rfl
    | cons c rest =>
      rw [chars] at none
      exact absurd (none c List.mem_cons_self) (upperChar_ne_nil c)
  · intro empty c mem
    rw [empty] at mem
    cases mem

/-! ## Where upper case forms can be cut -/

/-- A caseless character is its own upper case form. -/
theorem upperChar_of_isCaseless {letter : Char} (caseless : isCaseless letter.toNat = true) :
    upperChar letter = [letter] := by
  simp only [isCaseless, Bool.and_eq_true, List.all_eq_true, Bool.not_eq_true',
    bne_iff_ne] at caseless
  have unchanged := mapPoint_eq_self (fun entry mem => (caseless.1 entry mem).1)
    (fun run mem => (caseless.2 run mem).1)
  simp [upperChar, unchanged]

/-- A character without case is in a text if it is in the upper case form. -/
theorem mem_flatMap_upperChar_iff {letter : Char} (caseless : isCaseless letter.toNat = true)
    (chars : List Char) : letter ∈ chars.flatMap upperChar ↔ letter ∈ chars := by
  simpa [upper] using mem_upper_iff caseless (String.ofList chars)

/-- Only the empty text has an empty upper case form. -/
theorem flatMap_upperChar_eq_nil_iff (chars : List Char) :
    chars.flatMap upperChar = [] ↔ chars = [] := by
  cases chars <;> simp [upperChar_ne_nil]

/-- Where a caseless character stands in an upper case form, it stands in the text itself. -/
theorem exists_split_of_flatMap_upperChar {letter : Char}
    (caseless : isCaseless letter.toNat = true) {chars before after : List Char}
    (split : chars.flatMap upperChar = before ++ letter :: after) :
    ∃ first last, chars = first ++ letter :: last ∧ first.flatMap upperChar = before ∧
      last.flatMap upperChar = after := by
  induction chars generalizing before with
  | nil => simp at split
  | cons c rest ih =>
    rw [List.flatMap_cons] at split
    rcases List.append_eq_append_iff.mp split with
      ⟨middle, before_eq, rest_eq⟩ | ⟨middle, form, rest_eq⟩
    · obtain ⟨first, last, rfl, first_eq, last_eq⟩ := ih rest_eq
      exact ⟨c :: first, last, rfl, by rw [List.flatMap_cons, first_eq, before_eq], last_eq⟩
    · cases middle with
      | nil =>
        have split : rest.flatMap upperChar = [] ++ letter :: after := rest_eq.symm
        obtain ⟨first, last, rfl, first_eq, last_eq⟩ := ih split
        refine ⟨c :: first, last, rfl, ?_, last_eq⟩
        simpa [first_eq] using form
      | cons d middle =>
        -- the character is in the form of `c`, so it is `c`
        obtain ⟨rfl, after_eq⟩ := List.cons.inj rest_eq
        have same : c = letter := (mem_upperChar_iff caseless c).mp (by simp [form])
        subst same
        rw [upperChar_of_isCaseless caseless] at form
        cases before with
        | nil =>
          obtain rfl : middle = [] := by simpa using form
          exact ⟨[], rest, rfl, rfl, after_eq.symm⟩
        | cons d before => simp at form

end SignOn.Text
