import Mathlib.Data.List.Basic
import SignOn.Ace.HostName

/-!
# Labels prepared with an inert ending

Preparation leaves ASCII characters other than capital letters alone, and at the end of a label they
stay apart from what comes before them: they are starters that compose with nothing before them.
Main statement: a label with such an ending is prepared to the prepared label with the ending,
unless the label is written from right to left (`preparedLabel_append`).
-/

set_option autoImplicit false

namespace SignOn.Ace

open Text

/-! ## Ranges beyond ASCII -/

/-- A code point that is in a table is in one of its ranges. -/
theorem exists_of_contains {table : RangeTable} {point : Nat}
    (contains : table.contains point = true) :
    ∃ range ∈ table.ranges.toList, range.1 ≤ point ∧ point ≤ range.2 := by
  unfold RangeTable.contains at contains
  dsimp only at contains
  split at contains
  · rename_i first last found
    rw [Bool.and_eq_true, decide_eq_true_iff, decide_eq_true_iff] at contains
    exact ⟨(first, last), Array.mem_toList_iff.mpr (Array.mem_of_getElem? found), contains⟩
  · cases contains

/-- The ranges of a table are the pairs of the numbers that it is written with. -/
theorem ranges_ofText (chars : List Char) :
    (RangeTable.ofText (String.ofList chars)).ranges.toList = pairUp (hexNumbers chars) := by
  rw [RangeTable.ofText, String.toList_ofList]

/-- A table has code points beyond ASCII only. -/
def BeyondAscii (table : RangeTable) : Prop := ∀ range ∈ table.ranges.toList, 0x80 ≤ range.1

/-- A table of code points beyond ASCII contains no ASCII character. -/
theorem BeyondAscii.contains_eq_false {table : RangeTable} (beyond : BeyondAscii table)
    {point : Nat} (ascii : point < 0x80) : table.contains point = false := by
  rw [← Bool.not_eq_true]
  intro contains
  obtain ⟨range, member, first_le, _⟩ := exists_of_contains contains
  have first_ge := beyond range member
  omega

/-- No ASCII character vanishes. -/
theorem beyondAscii_vanishing : BeyondAscii vanishingTable := by
  have ranges_eq : vanishingTable.ranges.toList = _ := ranges_ofText _
  rw [BeyondAscii, ranges_eq]
  decide +kernel

set_option maxRecDepth 8000 in
/-- No ASCII character is prohibited. -/
theorem beyondAscii_prohibited : BeyondAscii prohibitedTable := by
  have ranges_eq : prohibitedTable.ranges.toList = _ := ranges_ofText _
  rw [BeyondAscii, ranges_eq]
  decide +kernel

set_option maxRecDepth 8000 in
/-- What is written from right to left are characters beyond ASCII. -/
theorem isValidChar_of_rightToLeft {point : Nat}
    (contains : rightToLeftTable.contains point = true) : point.isValidChar ∧ 0x80 ≤ point := by
  have ranges_eq : rightToLeftTable.ranges.toList = _ := ranges_ofText _
  have all : ∀ range ∈ rightToLeftTable.ranges.toList, 0x80 ≤ range.1 ∧
      (range.2 < 0xD800 ∨ 0xDFFF < range.1 ∧ range.2 < 0x110000) := by
    rw [ranges_eq]
    decide +kernel
  obtain ⟨range, member, first_le, le_last⟩ := exists_of_contains contains
  obtain ⟨beyond, valid⟩ := all range member
  unfold Nat.isValidChar
  omega

/-- No ASCII character is written from right to left. -/
theorem rightToLeft_eq_false {point : Nat} (ascii : point < 0x80) :
    rightToLeftTable.contains point = false := by
  rw [← Bool.not_eq_true]
  intro contains
  have beyond := (isValidChar_of_rightToLeft contains).2
  omega

/-! ## Inert endings -/

/-- An ASCII character other than a capital letter. -/
def IsInert (c : Char) : Prop := c.toNat < 0x80 ∧ ¬ (0x41 ≤ c.toNat ∧ c.toNat ≤ 0x5A)

/-- Two texts are folded one after the other. -/
theorem foldedPoints_append (label ending : List Char) :
    foldedPoints (label ++ ending) = foldedPoints label ++ foldedPoints ending := by
  rw [foldedPoints, List.filter_append, List.flatMap_append, ← foldedPoints, ← foldedPoints]

/-- Inert characters are folded to themselves. -/
theorem foldedPoints_inert {ending : List Char} (inert : ∀ c ∈ ending, IsInert c) :
    foldedPoints ending = ending.map Char.toNat := by
  induction ending with
  | nil => rfl
  | cons c rest ih =>
    obtain ⟨⟨ascii, small⟩, others⟩ := List.forall_mem_cons.mp inert
    have stays := beyondAscii_vanishing.contains_eq_false ascii
    have folded : foldedPoint c.toNat = [c.toNat] := by rw [foldedPoint, if_pos ascii, if_neg small]
    rw [List.map_cons, ← ih others]
    simp [foldedPoints, stays, folded]

/-- ASCII points are decomposed to themselves. -/
theorem flatMap_decomposition_ascii {points : List Nat} (ascii : ∀ point ∈ points, point < 0x80) :
    points.flatMap decomposition = points := by
  induction points with
  | nil => rfl
  | cons point rest ih =>
    obtain ⟨first, others⟩ := List.forall_mem_cons.mp ascii
    rw [List.flatMap_cons, ih others, decomposition, if_pos first, List.singleton_append]

/-- ASCII points are put in order behind a text as they are. -/
theorem inCanonicalOrder_append {points : List Nat} (ascii : ∀ point ∈ points, point < 0x80)
    (text : List Nat) : inCanonicalOrder (text ++ points) = inCanonicalOrder text ++ points := by
  have behind : ∀ (points earlier : List Nat), (∀ point ∈ points, point < 0x80) →
      points.foldl (fun earlier point => insertMark point earlier) earlier =
        points.reverse ++ earlier := by
    intro points
    induction points with
    | nil => exact fun _ _ => rfl
    | cons point rest ih =>
      intro earlier ascii
      obtain ⟨first, others⟩ := List.forall_mem_cons.mp ascii
      have starter : combiningClass point = 0 := by rw [combiningClass, if_pos first]
      have inserted : insertMark point earlier = point :: earlier := by
        cases earlier <;> simp [insertMark, starter]
      rw [List.foldl_cons, inserted, ih _ others, List.reverse_cons, List.append_assoc]
      rfl
  rw [inCanonicalOrder, List.foldl_append, behind points _ ascii, List.reverse_append,
    List.reverse_reverse, inCanonicalOrder]

/-- Nothing before them absorbs ASCII points. -/
theorem absorb_append {points : List Nat} (ascii : ∀ point ∈ points, point < 0x80)
    (first blocking : Nat) (text : List Nat) :
    absorb first blocking (text ++ points) =
      ((absorb first blocking text).1, (absorb first blocking text).2 ++ points) := by
  induction text generalizing first blocking with
  | nil =>
    cases points with
    | nil => rfl
    | cons point rest =>
      have small := (List.forall_mem_cons.mp ascii).1
      have starter : combiningClass point = 0 := by rw [combiningClass, if_pos small]
      have apart : composite? first point = none := by rw [composite?, if_pos small]
      by_cases unblocked : blocking = 0 <;> simp [absorb, starter, apart, unblocked]
  | cons point rest ih =>
    simp only [List.cons_append, absorb, ih]
    split
    · rfl
    · split
      · rfl
      · split
        · rfl
        · split <;> rfl

/-- ASCII characters behind a text are not composed with it. -/
theorem composed_append {points : List Nat} (ascii : ∀ point ∈ points, point < 0x80)
    (text : List Nat) : composed (text ++ points) = composed text ++ points := by
  fun_induction composed text with
  | case1 =>
    rw [List.nil_append]
    induction points with
    | nil => rw [composed]
    | cons point rest ih =>
      obtain ⟨_, others⟩ := List.forall_mem_cons.mp ascii
      have alone := absorb_append others point 0 []
      rw [List.nil_append] at alone
      rw [composed, alone]
      exact congrArg _ (ih others)
  | case2 point rest absorbed ih =>
    rw [List.cons_append, composed, absorb_append ascii]
    exact congrArg _ ih

/-- Normalization leaves an ASCII ending alone. -/
theorem normalized_append {points : List Nat} (ascii : ∀ point ∈ points, point < 0x80)
    (text : List Nat) : normalized (text ++ points) = normalized text ++ points := by
  rw [normalized, List.flatMap_append, flatMap_decomposition_ascii ascii,
    inCanonicalOrder_append ascii, composed_append ascii, normalized]

/-! ## Prepared labels -/

/-- The points of a label that are checked. -/
def checkedPoints (label : List Char) : List Nat := normalized (foldedPoints label)

/-- Inert characters behind a label are checked as they are. -/
theorem checkedPoints_append {ending : List Char} (inert : ∀ c ∈ ending, IsInert c)
    (label : List Char) :
    checkedPoints (label ++ ending) = checkedPoints label ++ ending.map Char.toNat := by
  have ascii : ∀ point ∈ ending.map Char.toNat, point < 0x80 := by
    rw [List.forall_mem_map]
    exact fun c member => (inert c member).1
  rw [checkedPoints, foldedPoints_append, foldedPoints_inert inert, normalized_append ascii,
    checkedPoints]

/-- A label that is prepared is made of its points, and none of them is prohibited. -/
theorem of_preparedLabel_eq_ok {label prepared : List Char}
    (prepares : preparedLabel label = .ok prepared) :
    prepared = (checkedPoints label).map Char.ofNat ∧
      (checkedPoints label).find? prohibitedTable.contains = none := by
  unfold preparedLabel at prepares
  dsimp only at prepares
  rw [← checkedPoints] at prepares
  split at prepares
  · cases prepares
  · rename_i allowed
    split at prepares
    · split at prepares
      · cases prepares
      · split at prepares
        · cases prepares
          exact ⟨rfl, allowed⟩
        · cases prepares
    · cases prepares
      exact ⟨rfl, allowed⟩

/-- A prepared label stays as it is before an inert ending, unless it is written from right to left:
then the ending breaks the rules for writing directions. -/
theorem preparedLabel_append {label prepared ending : List Char}
    (prepares : preparedLabel label = .ok prepared) (inert : ∀ c ∈ ending, IsInert c)
    (full : ending ≠ []) :
    preparedLabel (label ++ ending) =
      if (checkedPoints label).any rightToLeftTable.contains then .error .mixedDirections
      else .ok (prepared ++ ending) := by
  obtain ⟨prepared_eq, allowed⟩ := of_preparedLabel_eq_ok prepares
  obtain ⟨before, last, rfl⟩ := (List.eq_nil_or_concat' ending).resolve_left full
  have ascii : ∀ point ∈ (before ++ [last]).map Char.toNat, point < 0x80 := by
    rw [List.forall_mem_map]
    exact fun c member => (inert c member).1
  have allowed' : (checkedPoints label ++ (before ++ [last]).map Char.toNat).find?
      prohibitedTable.contains = none := by
    rw [List.find?_append, allowed, Option.none_or, List.find?_eq_none]
    intro point member
    rw [beyondAscii_prohibited.contains_eq_false (ascii point member)]
    exact Bool.false_ne_true
  -- the ending adds no character that is written from right to left
  have same_direction : ((checkedPoints label ++ (before ++ [last]).map Char.toNat).map
      rightToLeftTable.contains).any id = (checkedPoints label).any rightToLeftTable.contains := by
    have none_ending :
        ((before ++ [last]).map Char.toNat).any rightToLeftTable.contains = false := by
      rw [List.any_eq_false]
      intro point member
      rw [rightToLeft_eq_false (ascii point member)]
      exact Bool.false_ne_true
    rw [List.any_map, Function.id_comp, List.any_append, none_ending, Bool.or_false]
  have ends : ((checkedPoints label ++ (before ++ [last]).map Char.toNat).map
      rightToLeftTable.contains).getLast? = some false := by
    have of_last : rightToLeftTable.contains last.toNat = false :=
      rightToLeft_eq_false (inert last (by simp)).1
    simp [of_last]
  have chars : (checkedPoints label ++ (before ++ [last]).map Char.toNat).map Char.ofNat =
      prepared ++ (before ++ [last]) := by
    rw [prepared_eq, List.map_append, List.map_map]
    simp [Function.comp_def]
  rw [preparedLabel, ← checkedPoints, checkedPoints_append inert]
  simp only [allowed', same_direction, ends, chars]
  split
  · split
    · rfl
    · exact if_neg fun both => Bool.false_ne_true (Option.some.inj both.2)
  · rfl

/-- A label that is prepared to ASCII is not written from right to left. -/
theorem not_rightToLeft_of_isAscii {label prepared : List Char}
    (prepares : preparedLabel label = .ok prepared) (ascii : isAscii prepared = true) :
    (checkedPoints label).any rightToLeftTable.contains = false := by
  rw [List.any_eq_false]
  intro point member contains
  obtain ⟨valid, beyond⟩ := isValidChar_of_rightToLeft contains
  have toNat_eq : (Char.ofNat point).toNat = point := by
    unfold Char.ofNat
    rw [dif_pos valid]
    rfl
  rw [isAscii, List.all_eq_true, (of_preparedLabel_eq_ok prepares).1] at ascii
  have small := ascii (Char.ofNat point) (List.mem_map_of_mem member)
  rw [toNat_eq, decide_eq_true_iff] at small
  omega

end SignOn.Ace
