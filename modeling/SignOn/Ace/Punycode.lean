/-!
# Punycode

Writes a sequence of code points in ASCII: the ASCII ones come first, and the others follow as
differences in a positional system with variable thresholds. Between two insertions the thresholds
adapt to the size of the differences seen so far.
-/

set_option autoImplicit false

namespace SignOn.Ace.Punycode

/-- The digit with a value below thirty-six: letters, then decimal digits. -/
def digit (value : Nat) : Char :=
  if value < 26 then Char.ofNat ('a'.toNat + value) else Char.ofNat ('0'.toNat + (value - 26))

/-- The threshold of the digit at a position, counted in steps of thirty-six. -/
def threshold (position bias : Nat) : Nat :=
  if position ≤ bias then 1 else if bias + 26 ≤ position then 26 else position - bias

/-- No threshold is zero. -/
theorem threshold_pos (position bias : Nat) : 1 ≤ threshold position bias := by
  unfold threshold
  split
  · omega
  · split <;> omega

/-- The digits of a difference. -/
def differenceDigits (bias position difference : Nat) : List Char :=
  let limit := threshold position bias
  if difference < limit then [digit difference]
  else
    digit (limit + (difference - limit) % (36 - limit)) ::
      differenceDigits bias (position + 36) ((difference - limit) / (36 - limit))
termination_by difference
decreasing_by
  have := threshold_pos position bias
  exact Nat.lt_of_le_of_lt (Nat.div_le_self _ _) (by omega)

/-- Divides a difference by thirty-five until it is small; also returns the bias earned. -/
def scaleDown (difference bias : Nat) : Nat × Nat :=
  if 455 < difference then scaleDown (difference / 35) (bias + 36) else (difference, bias)
termination_by difference
decreasing_by exact Nat.div_lt_self (by omega) (by omega)

/-- The bias after a difference has been written as the `count`-th code point. -/
def adaptedBias (difference count : Nat) (isFirst : Bool) : Nat :=
  let damped := if isFirst then difference / 700 else difference / 2
  let (rest, bias) := scaleDown (damped + damped / count) 0
  bias + 36 * rest / (rest + 38)

/-- How far the writing has come: digits so far, the running difference, the bias and the number of
code points already written. -/
structure Progress where
  written : List Char
  difference : Nat
  bias : Nat
  count : Nat

/-- One pass over the text writes every occurrence of `point`; `basicCount` is the number of ASCII
code points. -/
def writeOccurrences (basicCount point : Nat) (progress : Progress) (current : Nat) : Progress :=
  if current < point then { progress with difference := progress.difference + 1 }
  else if current = point then
    { written := progress.written ++ differenceDigits progress.bias 36 progress.difference
      difference := 0
      bias := adaptedBias progress.difference (progress.count + 1) (progress.count == basicCount)
      count := progress.count + 1 }
  else progress

/-- Writes the given code points, in ascending order; all below `next` have been written. -/
def writePoints (text : List Nat) (basicCount : Nat) : List Nat → Nat → Progress → Progress
  | [], _, progress => progress
  | point :: others, next, progress =>
    let reached :=
      { progress with difference := progress.difference + (point - next) * (progress.count + 1) }
    let passed := text.foldl (writeOccurrences basicCount point) reached
    writePoints text basicCount others (point + 1)
      { passed with difference := passed.difference + 1 }

/-- Inserts a number into an ascending list, once. -/
def insertOnce (number : Nat) : List Nat → List Nat
  | [] => [number]
  | first :: rest =>
    if number < first then number :: first :: rest
    else if number = first then first :: rest
    else first :: insertOnce number rest

/-- The Punycode form of a text. -/
def encode (text : List Nat) : List Char :=
  let basic := text.filter (· < 0x80)
  let others := (text.filter (0x80 ≤ ·)).foldr insertOnce []
  let progress := writePoints text basic.length others 0x80 ⟨[], 0, 72, basic.length⟩
  let start := if basic.isEmpty then [] else basic.map Char.ofNat ++ ['-']
  start ++ progress.written

end SignOn.Ace.Punycode
