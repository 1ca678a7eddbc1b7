import Mathlib.Data.List.Basic
import SignOn.Ace.HostName
import SignOn.Proofs.Text.Letters

/-!
# ASCII texts in either case

The tables map an ASCII character to the one that `Char.toUpper` or `Char.toLower` gives, wherever
it stands. So ASCII texts that are equal up to case (`EqualUpToCase`) have one upper case form and
one lower case form, and an ASCII text is equal up to case to its upper case form
(`equalUpToCase_upper`). Beyond ASCII texts with the same letters need not have one lower case form:
the long s has the upper case form of the common s, but is a lower case form itself.
-/

set_option autoImplicit false

namespace SignOn.Text

open Ace (isAscii)

/-! ## Characters -/

/-- What holds of the characters of all code points below 128 holds of all ASCII characters. -/
theorem of_forall_ascii {P : Char → Prop} (all : ∀ point < 0x80, P (.ofNat point)) {c : Char}
    (ascii : c.toNat < 0x80) : P c := by
  have here := all c.toNat ascii
  rwa [Char.ofNat_toNat] at here

/-- Of a table whose other entries lie beyond ASCII, an ASCII character meets the first run
alone. -/
theorem mapPoint_first {expansions : List (Nat × List Nat)} {run : PointRun}
    {point : Nat} (later : List PointRun)
    (expanded : expansions.all (fun entry => Nat.ble 0x80 entry.1) = true)
    (others : later.all (fun other => Nat.ble 0x80 other.first) = true) (ascii : point < 0x80) :
    mapPoint expansions (run :: later) point = mapPoint [] [run] point := by
  rw [List.all_eq_true] at expanded others
  have unexpanded : expansions.find? (fun entry => Nat.beq entry.1 point) = none := by
    refine List.find?_eq_none.2 fun entry mem => ?_
    have beyond := Nat.le_of_ble_eq_true (expanded entry mem)
    rw [Nat.beq_eq]
    omega
  have uncovered : later.find? (fun other => other.contains point) = none := by
    refine List.find?_eq_none.2 fun other mem => ?_
    have beyond := Nat.le_of_ble_eq_true (others other mem)
    simp only [PointRun.contains, Bool.and_eq_true, Nat.ble_eq]
    omega
  simp only [mapPoint, unexpanded, uncovered, List.find?_cons, List.find?_nil]

set_option maxRecDepth 2000 in
/-- The upper case form of an ASCII character is the one that ASCII knows. -/
theorem upperChar_eq_toUpper {c : Char} (ascii : c.toNat < 0x80) : upperChar c = [c.toUpper] := by
  -- each of the 128 cases is evaluated against the one run that matters, not against the table
  have first : upperChar c = (mapPoint [] [⟨97, 122, 1, 65⟩] c.toNat).map Char.ofNat :=
    congrArg (List.map Char.ofNat) (mapPoint_first upperRuns.tail rfl rfl ascii)
  rw [first]
  exact of_forall_ascii
    (P := fun c => (mapPoint [] [⟨97, 122, 1, 65⟩] c.toNat).map Char.ofNat = [c.toUpper])
    (by decide) ascii

set_option maxRecDepth 2000 in
/-- The lower case form of an ASCII character is the one that ASCII knows. -/
theorem lowerChar_eq_toLower {c : Char} (ascii : c.toNat < 0x80) : lowerChar c = [c.toLower] := by
  have first : lowerChar c = (mapPoint [] [⟨65, 90, 1, 97⟩] c.toNat).map Char.ofNat :=
    congrArg (List.map Char.ofNat) (mapPoint_first lowerRuns.tail rfl rfl ascii)
  rw [first]
  exact of_forall_ascii
    (P := fun c => (mapPoint [] [⟨65, 90, 1, 97⟩] c.toNat).map Char.ofNat = [c.toLower])
    (by decide) ascii

/-- The upper case form of an ASCII character is ASCII. -/
theorem toNat_toUpper_lt {c : Char} (ascii : c.toNat < 0x80) : c.toUpper.toNat < 0x80 :=
  of_forall_ascii (P := fun c => c.toUpper.toNat < 0x80) (by decide) ascii

/-- In lower case an ASCII character and its upper case form are the same. -/
theorem toLower_toUpper {c : Char} (ascii : c.toNat < 0x80) : c.toUpper.toLower = c.toLower :=
  of_forall_ascii (P := fun c => c.toUpper.toLower = c.toLower) (by decide) ascii

/-- No ASCII character is a capital sigma. -/
theorem ne_sigma {c : Char} (ascii : c.toNat < 0x80) : c ≠ 'Σ' := by
  rintro rfl
  revert ascii
  decide

/-- A text is ASCII if each of its characters is. -/
theorem isAscii_iff {text : List Char} : isAscii text = true ↔ ∀ c ∈ text, c.toNat < 0x80 := by
  simp [isAscii]

/-! ## Texts -/

/-- The upper case form of an ASCII text is formed character by character. -/
theorem toList_upper {text : String} (ascii : isAscii text.toList = true) :
    (upper text).toList = text.toList.map Char.toUpper := by
  rw [isAscii_iff] at ascii
  rw [upper, String.toList_ofList,
    List.flatMap_congr fun c mem => upperChar_eq_toUpper (ascii c mem)]
  exact List.flatMap_pure_eq_map Char.toUpper text.toList

/-- ASCII texts are equal up to case. -/
structure EqualUpToCase (first second : String) : Prop where
  ascii : isAscii first.toList = true
  ascii' : isAscii second.toList = true
  same : SameLetters first.toList second.toList

/-- An ASCII text is equal up to case to its upper case form. -/
theorem equalUpToCase_upper {text : String} (ascii : isAscii text.toList = true) :
    EqualUpToCase text (upper text) := by
  have small := isAscii_iff.mp ascii
  refine ⟨ascii, ?_, ?_⟩
  · rw [toList_upper ascii, isAscii_iff]
    intro c mem
    obtain ⟨d, inside, rfl⟩ := List.mem_map.mp mem
    exact toNat_toUpper_lt (small d inside)
  · rw [SameLetters, toList_upper ascii, List.map_map]
    refine List.map_congr_left fun c mem => ?_
    have form := upperChar_eq_toUpper (small c mem)
    have upperForm : c.toUpper ∈ upperChar c := by simp [form]
    rw [Function.comp_apply, upperChar_of_mem upperForm, form]

/-- No ASCII character is the one letter whose lower case form depends on those around it. -/
theorem lowerFrom_eq_map {before text : List Char} (ascii : isAscii text = true) :
    lowerFrom before text = text.map Char.toLower := by
  induction text generalizing before with
  | nil => rfl
  | cons c rest ih =>
    rw [isAscii, List.all_cons, Bool.and_eq_true, decide_eq_true_eq] at ascii
    obtain ⟨here, others⟩ := ascii
    rw [lowerFrom, if_neg (ne_sigma here), lowerChar_eq_toLower here, ih others]
    rfl

namespace EqualUpToCase

variable {first second : String}

/-- Texts that are equal up to case have the same length. -/
theorem length_eq (equal : EqualUpToCase first second) : first.length = second.length := by
  have lengths := congrArg List.length equal.same
  simpa only [List.length_map, String.length_toList] using lengths

/-- Texts that are equal up to case are the same in upper case. -/
theorem upper_eq (equal : EqualUpToCase first second) : upper first = upper second := by
  rw [upper, upper, List.flatMap_def, List.flatMap_def, equal.same]

/-- Texts that are equal up to case are the same in lower case. -/
theorem lower_eq (equal : EqualUpToCase first second) : lower first = lower second := by
  have lowered : ∀ {text : List Char}, isAscii text = true →
      (text.map Char.toUpper).map Char.toLower = text.map Char.toLower := by
    intro text ascii
    rw [List.map_map]
    exact List.map_congr_left fun c mem => toLower_toUpper (isAscii_iff.mp ascii c mem)
  have uppers : first.toList.map Char.toUpper = second.toList.map Char.toUpper := by
    rw [← toList_upper equal.ascii, ← toList_upper equal.ascii', equal.upper_eq]
  rw [lower, lower, lowerFrom_eq_map equal.ascii, lowerFrom_eq_map equal.ascii',
    ← lowered equal.ascii, ← lowered equal.ascii', uppers]

end EqualUpToCase

end SignOn.Text
