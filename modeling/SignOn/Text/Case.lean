import SignOn.Text.CaseRuns
import SignOn.Text.CaseContext

/-!
# Upper and lower case

The upper case form of a text is formed character by character, and one character may turn into
several. The lower case form looks at its surroundings in one place only: a capital sigma at the
end of a word becomes a final sigma. Main statement: an upper case form is its own upper case form
(`upper_upper`).
-/

set_option autoImplicit false

namespace SignOn.Text

/-- The code points that a table of expansions and runs assigns to one code point. -/
def mapPoint (expansions : List (Nat × List Nat)) (runs : List PointRun) (point : Nat) : List Nat :=
  match expansions.find? (fun entry => Nat.beq entry.1 point) with
  | some entry => entry.2
  | none =>
    match runs.find? (fun run => run.contains point) with
    | some run => [run.image point]
    | none => [point]

/-- The upper case form of a character. -/
def upperChar (c : Char) : List Char :=
  (mapPoint upperExpansions upperRuns c.toNat).map Char.ofNat

/-- The lower case form of a character taken alone. -/
def lowerChar (c : Char) : List Char :=
  (mapPoint lowerExpansions lowerRuns c.toNat).map Char.ofNat

/-- The upper case form of a text. -/
def upper (text : String) : String :=
  String.ofList (text.toList.flatMap upperChar)

/-- Past the case-ignorable characters, the text goes on with a cased one. -/
def reachesCased (text : List Char) : Bool :=
  match text.dropWhile isCaseIgnorable with
  | [] => false
  | c :: _ => isCased c

/-- Lower-cases `rest`; `before` holds the characters already read, the nearest first. -/
def lowerFrom (before : List Char) : List Char → List Char
  | [] => []
  | c :: rest =>
    let form :=
      if c = 'Σ' then
        if reachesCased before && !reachesCased rest then ['ς'] else ['σ']
      else lowerChar c
    form ++ lowerFrom (c :: before) rest

/-- The lower case form of a text. -/
def lower (text : String) : String :=
  String.ofList (lowerFrom [] text.toList)

/-! ## Stability of upper case forms -/

/-- No form of a member of `run` is a member of `other`: the two lie apart, or they interleave. -/
def PointRun.avoids (run other : PointRun) : Bool :=
  Nat.blt (run.target + (run.last - run.first)) other.first ||
  Nat.blt other.last run.target ||
  (Nat.beq other.step 2 && (Nat.beq run.step 2 || Nat.beq run.first run.last) &&
    Nat.beq ((run.target + other.first) % 2) 1)

/-- No form of a member of `run` is the code point `point`. -/
def PointRun.avoidsPoint (run : PointRun) (point : Nat) : Bool :=
  Nat.blt (run.target + (run.last - run.first)) point || Nat.blt point run.target

/-- A form of a member lies outside the runs that its own run avoids. -/
theorem PointRun.not_contains_image {run other : PointRun} {point : Nat}
    (avoids : run.avoids other = true) (member : run.contains point = true) :
    other.contains (run.image point) = false := by
  rcases run with ⟨first, last, step, target⟩
  rcases other with ⟨otherFirst, otherLast, otherStep, otherTarget⟩
  simp only [PointRun.contains, Bool.and_eq_true, Nat.ble_eq, Nat.beq_eq] at member
  simp only [PointRun.avoids, Bool.or_eq_true, Bool.and_eq_true, Nat.blt_eq, Nat.beq_eq] at avoids
  rw [Bool.eq_false_iff]
  simp only [PointRun.contains, PointRun.image, ne_eq, Bool.and_eq_true, Nat.ble_eq, Nat.beq_eq]
  obtain ⟨⟨low, high⟩, divides⟩ := member
  rintro ⟨⟨otherLow, otherHigh⟩, otherDivides⟩
  rcases avoids with (before | after) | ⟨⟨rfl, twoOrOne⟩, odd⟩
  · omega
  · omega
  · rcases twoOrOne with rfl | rfl <;> omega

/-- A form of a member differs from the code points that its run avoids. -/
theorem PointRun.image_ne {run : PointRun} {point other : Nat}
    (avoids : run.avoidsPoint other = true) (member : run.contains point = true) :
    other ≠ run.image point := by
  simp only [PointRun.contains, Bool.and_eq_true, Nat.ble_eq, Nat.beq_eq] at member
  simp only [PointRun.avoidsPoint, Bool.or_eq_true, Nat.blt_eq] at avoids
  simp only [PointRun.image]
  omega

/-- The runs lead out of the upper case tables, and no run leads past the last code point. -/
theorem upperRuns_avoid :
    upperRuns.all (fun run => upperRuns.all (fun other => run.avoids other) &&
      upperExpansions.all (fun entry => run.avoidsPoint entry.1) &&
      (Nat.blt (run.target + (run.last - run.first)) 0xD800 ||
        (Nat.blt 0xDFFF run.target &&
          Nat.blt (run.target + (run.last - run.first)) 0x110000))) = true := by
  decide +kernel

/-- A code point that is a character and that the upper case tables leave alone. -/
def IsUpperForm (point : Nat) : Prop :=
  point.isValidChar ∧ mapPoint upperExpansions upperRuns point = [point]

/-- The expansions consist of characters that the upper case tables leave alone. -/
theorem upperExpansions_stable :
    upperExpansions.all (fun entry => entry.2.all (fun point =>
      Nat.blt point 0xD800 && !upperExpansions.any (fun other => Nat.beq other.1 point) &&
        !upperRuns.any (fun run => run.contains point))) = true := by
  decide +kernel

/-- A code point in no table is its own upper case form. -/
theorem mapPoint_eq_self {expansions : List (Nat × List Nat)} {runs : List PointRun} {point : Nat}
    (noExpansion : ∀ entry ∈ expansions, entry.1 ≠ point)
    (noRun : ∀ run ∈ runs, run.contains point = false) :
    mapPoint expansions runs point = [point] := by
  have none₁ : expansions.find? (fun entry => Nat.beq entry.1 point) = none := by
    refine List.find?_eq_none.2 fun entry mem => ?_
    simpa [Nat.beq_eq] using noExpansion entry mem
  have none₂ : runs.find? (fun run => run.contains point) = none := by
    refine List.find?_eq_none.2 fun run mem => ?_
    simpa using noRun run mem
  simp [mapPoint, none₁, none₂]

/-- What the upper case tables make of a code point is that code point, if no table has it, or is
made of upper case forms. -/
theorem mapPoint_upper (point : Nat) :
    mapPoint upperExpansions upperRuns point = [point] ∨
      ∀ image ∈ mapPoint upperExpansions upperRuns point, IsUpperForm image := by
  have expansions := upperExpansions_stable
  have runs := upperRuns_avoid
  simp only [List.all_eq_true, Bool.and_eq_true, Bool.or_eq_true, Nat.blt_eq,
    Bool.not_eq_true', List.any_eq_false] at expansions runs
  cases foundEntry : upperExpansions.find? (fun entry => Nat.beq entry.1 point) with
  | some entry =>
    refine .inr fun image mem => ?_
    simp only [mapPoint, foundEntry] at mem
    obtain ⟨⟨valid, noEntry⟩, noRun⟩ :=
      expansions entry (List.mem_of_find?_eq_some foundEntry) image mem
    refine ⟨.inl valid, mapPoint_eq_self (fun other otherMem => ?_) (fun run runMem => ?_)⟩
    · simpa [Nat.beq_eq] using noEntry other otherMem
    · simpa using noRun run runMem
  | none =>
    cases foundRun : upperRuns.find? (fun run => run.contains point) with
    | none => exact .inl (by simp [mapPoint, foundEntry, foundRun])
    | some run =>
      refine .inr fun image mem => ?_
      simp only [mapPoint, foundEntry, foundRun, List.mem_singleton] at mem
      subst mem
      have member := List.find?_some foundRun
      obtain ⟨⟨noRun, noEntry⟩, valid⟩ := runs run (List.mem_of_find?_eq_some foundRun)
      refine ⟨?_, mapPoint_eq_self
        (fun entry entryMem => PointRun.image_ne (noEntry entry entryMem) member)
        (fun other otherMem => PointRun.not_contains_image (noRun other otherMem) member)⟩
      simp only [PointRun.contains, Bool.and_eq_true, Nat.ble_eq] at member
      simp only [PointRun.image]
      rcases valid with low | high
      · exact .inl (by omega)
      · exact .inr ⟨by omega, by omega⟩

/-- A character of an upper case form is its own upper case form. -/
theorem upperChar_of_mem {c d : Char} (h : d ∈ upperChar c) : upperChar d = [d] := by
  obtain ⟨point, mem, rfl⟩ := List.mem_map.1 h
  rcases mapPoint_upper c.toNat with unchanged | forms
  · rw [unchanged, List.mem_singleton] at mem
    subst mem
    simp [upperChar, unchanged]
  · obtain ⟨valid, stable⟩ := forms point mem
    have toNat_ofNat : (Char.ofNat point).toNat = point := by
      unfold Char.ofNat
      rw [dif_pos valid]
      rfl
    simp [upperChar, toNat_ofNat, stable]

/-- Upper-casing twice is upper-casing once. -/
theorem upper_upper (text : String) : upper (upper text) = upper text := by
  have all_stable : ∀ chars : List Char, (∀ d ∈ chars, upperChar d = [d]) →
      chars.flatMap upperChar = chars := by
    intro chars
    induction chars with
    | nil => intro _; rfl
    | cons c rest ih =>
      intro h
      rw [List.flatMap_cons, h c (List.mem_cons_self ..),
        ih (fun d mem => h d (List.mem_cons_of_mem _ mem))]
      rfl
  simp only [upper, String.toList_ofList]
  rw [all_stable]
  intro d mem
  obtain ⟨c, -, hd⟩ := List.mem_flatMap.1 mem
  exact upperChar_of_mem hd

end SignOn.Text
