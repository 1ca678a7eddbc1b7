import SignOn.Ace.Decomposition
import SignOn.Ace.Composition

/-!
# Compatibility normalization

A text is decomposed in full, its combining marks are put into canonical order, and then every
starter absorbs the marks that it composes with.
-/

set_option autoImplicit false

namespace SignOn.Ace

open Text

/-! ## Hangul syllables -/

/-- The first Hangul syllable. -/
def firstSyllable : Nat := 0xAC00

/-- Leading consonants, vowels and trailing consonants start here; the number of each is 19, 21 and
28, where the first trailing one stands for none. -/
def firstLeading : Nat := 0x1100

@[inherit_doc firstLeading]
def firstVowel : Nat := 0x1161

@[inherit_doc firstLeading]
def firstTrailing : Nat := 0x11A7

/-- The letters of a Hangul syllable. -/
def syllableLetters? (point : Nat) : Option (List Nat) :=
  if firstSyllable ≤ point ∧ point < firstSyllable + 19 * 21 * 28 then
    let index := point - firstSyllable
    let leading := firstLeading + index / (21 * 28)
    let vowel := firstVowel + index % (21 * 28) / 28
    let trailing := firstTrailing + index % 28
    some (if trailing = firstTrailing then [leading, vowel] else [leading, vowel, trailing])
  else none

/-- The syllable of a leading consonant and a vowel, or of such a syllable and a trailing
consonant. -/
def syllable? (first second : Nat) : Option Nat :=
  if firstLeading ≤ first ∧ first < firstLeading + 19 ∧
      firstVowel ≤ second ∧ second < firstVowel + 21 then
    some (firstSyllable + ((first - firstLeading) * 21 + (second - firstVowel)) * 28)
  else if firstSyllable ≤ first ∧ first < firstSyllable + 19 * 21 * 28 ∧
      (first - firstSyllable) % 28 = 0 ∧
      firstTrailing < second ∧ second < firstTrailing + 28 then
    some (first + (second - firstTrailing))
  else none

/-! ## Decomposition -/

/-- The full compatibility decomposition of a code point; ASCII characters are not decomposed. -/
def decomposition (point : Nat) : List Nat :=
  if point < 0x80 then [point]
  else
    match syllableLetters? point with
    | some letters => letters
    | none => decompositionTable.apply point

/-- Puts a code point behind a reversed text in canonical order: a mark moves past marks of a higher
class. -/
def insertMark (point : Nat) : List Nat → List Nat
  | [] => [point]
  | last :: earlier =>
    if combiningClass point ≠ 0 ∧ combiningClass point < combiningClass last then
      last :: insertMark point earlier
    else point :: last :: earlier

/-- The canonical decomposition order of a text. -/
def inCanonicalOrder (text : List Nat) : List Nat :=
  (text.foldl (fun earlier point => insertMark point earlier) []).reverse

/-! ## Composition -/

/-- The composite of a pair of code points; an ASCII character is never the second of a pair. -/
def composite? (first second : Nat) : Option Nat :=
  if second < 0x80 then none
  else
    match syllable? first second with
    | some composite => some composite
    | none => listedComposite? first second

/-- Lets `first` absorb what it composes with in the text after it. A mark is blocked when one of
the same or a higher class stands between; `blocking` is the class of the last mark passed over. -/
def absorb (first blocking : Nat) : List Nat → Nat × List Nat
  | [] => (first, [])
  | point :: rest =>
    let combining := combiningClass point
    if blocking ≠ 0 ∧ combining = 0 then (first, point :: rest)
    else if blocking ≠ 0 ∧ combining ≤ blocking then
      let (composed, remaining) := absorb first blocking rest
      (composed, point :: remaining)
    else
      match composite? first point with
      | some composed => absorb composed blocking rest
      | none =>
        if combining = 0 then (first, point :: rest)
        else
          let (composed, remaining) := absorb first combining rest
          (composed, point :: remaining)

/-- Absorbing never lengthens the text. -/
theorem absorb_length_le (first blocking : Nat) (text : List Nat) :
    (absorb first blocking text).2.length ≤ text.length := by
  induction text generalizing first blocking with
  | nil => simp [absorb]
  | cons point rest ih =>
    simp only [absorb]
    split
    · simp
    · split
      · simpa using ih first blocking
      · split
        · rename_i composed _
          exact Nat.le_succ_of_le (ih composed blocking)
        · split
          · simp
          · simpa using ih first (combiningClass point)

/-- Composes a text in canonical order. -/
def composed : List Nat → List Nat
  | [] => []
  | point :: rest =>
    let absorbed := absorb point 0 rest
    absorbed.1 :: composed absorbed.2
termination_by text => text.length
decreasing_by
  exact Nat.lt_succ_of_le (absorb_length_le point 0 rest)

/-- The compatibility normal form of a text. -/
def normalized (text : List Nat) : List Nat :=
  composed (inCanonicalOrder (text.flatMap decomposition))

end SignOn.Ace
