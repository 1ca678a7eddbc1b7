import SignOn.Proofs.Text.Caseless

/-!
# Letters in either case

Two texts are the same but for the case of their letters if, character by character, they have the
same upper case forms (`SameLetters`). The tables lead to a single character from few others, which
can be listed (`origins`), so a character whose upper case form is a single one is among these
(`toNat_eq_or_mem_origins`).
-/

set_option autoImplicit false

namespace SignOn.Text

/-- The code points that runs of the upper case tables map to an image. -/
def origins (image : Nat) : List Nat :=
  upperRuns.filterMap fun run =>
    if run.target ≤ image ∧ image ≤ run.target + (run.last - run.first) then
      some (run.first + (image - run.target))
    else none

/-- A code point whose upper case form is a single one is that one, or a run leads from it to
there. -/
theorem eq_or_mem_origins {point image : Nat}
    (form : mapPoint upperExpansions upperRuns point = [image]) :
    point = image ∨ point ∈ origins image := by
  have longer : upperExpansions.all (fun entry => entry.2.length != 1) = true := rfl
  simp only [List.all_eq_true, bne_iff_ne] at longer
  cases foundEntry : upperExpansions.find? (fun entry => Nat.beq entry.1 point) with
  | some entry =>
    simp only [mapPoint, foundEntry] at form
    exact absurd (by rw [form]; rfl) (longer entry (List.mem_of_find?_eq_some foundEntry))
  | none =>
    cases foundRun : upperRuns.find? (fun run => run.contains point) with
    | none =>
      simp only [mapPoint, foundEntry, foundRun, List.cons.injEq, and_true] at form
      exact .inl form
    | some run =>
      simp only [mapPoint, foundEntry, foundRun, List.cons.injEq, and_true] at form
      have member := List.find?_some foundRun
      simp only [PointRun.contains, Bool.and_eq_true, Nat.ble_eq] at member
      simp only [PointRun.image] at form
      refine .inr (List.mem_filterMap.mpr ⟨run, List.mem_of_find?_eq_some foundRun, ?_⟩)
      rw [if_pos (by omega)]
      exact congrArg some (by omega)

/-- A character whose upper case form is a single one is that one, or a run leads from it to
there. -/
theorem toNat_eq_or_mem_origins {c letter : Char} (form : upperChar c = [letter]) :
    c.toNat = letter.toNat ∨ c.toNat ∈ origins letter.toNat := by
  obtain ⟨image, points, same⟩ := List.map_eq_singleton_iff.mp form
  have valid : image.isValidChar := isValidChar_of_mem_mapPoint (by rw [points]; simp)
  apply eq_or_mem_origins
  rw [points, ← same]
  unfold Char.ofNat
  rw [dif_pos valid]
  rfl

/-- Texts are the same but for the case of their letters. -/
def SameLetters (first second : List Char) : Prop := first.map upperChar = second.map upperChar

/-- To compare letters is to compare texts in upper case, which can be computed. -/
instance (first second : List Char) : Decidable (SameLetters first second) :=
  inferInstanceAs (Decidable (_ = _))

/-- A text with the same letters begins with the same caseless character. -/
theorem exists_of_sameLetters_cons {letter : Char} (caseless : isCaseless letter.toNat = true)
    {rest text : List Char} (same : SameLetters (letter :: rest) text) :
    ∃ others, text = letter :: others ∧ SameLetters rest others := by
  cases text with
  | nil => cases same
  | cons c others =>
    obtain ⟨here, there⟩ := List.cons.inj same
    have equal : c = letter := by
      rw [← mem_upperChar_iff caseless, ← here, mem_upperChar_iff caseless]
    exact ⟨others, by rw [equal], there⟩

end SignOn.Text
