/-!
# Tables of characters

What Unicode says of many characters is kept in tables that are written down as hexadecimal numbers
and searched by halving. A property is a sorted table of ranges. A mapping has two parts: the runs
of characters with an image of one character, which cover code points at a fixed distance from each
other, and the characters with a longer image.
-/

set_option autoImplicit false

namespace SignOn.Text

/-! ## Written numbers -/

/-- The value of a hexadecimal digit; any other character counts as zero. -/
def hexDigit (c : Char) : Nat :=
  if '0' ≤ c ∧ c ≤ '9' then c.toNat - '0'.toNat
  else if 'a' ≤ c ∧ c ≤ 'f' then c.toNat - 'a'.toNat + 10
  else 0

/-- The value of a hexadecimal numeral. -/
def hexNumber (digits : List Char) : Nat :=
  digits.foldl (fun value digit => 16 * value + hexDigit digit) 0

/-- The pieces of a text between the separators that satisfy `isSeparator`. -/
def pieces (isSeparator : Char → Bool) : List Char → List (List Char)
  | [] => [[]]
  | c :: rest =>
    if isSeparator c then [] :: pieces isSeparator rest
    else
      match pieces isSeparator rest with
      | [] => [[c]]
      | first :: others => (c :: first) :: others

/-- What separates the numbers of a table. -/
def isGap (c : Char) : Bool := c == ' ' || c == '\n'

/-- The hexadecimal numbers of a text. -/
def hexNumbers (text : List Char) : List Nat :=
  ((pieces isGap text).filter (fun word => !word.isEmpty)).map hexNumber

/-- Pairs up consecutive numbers. -/
def pairUp : List Nat → List (Nat × Nat)
  | first :: second :: rest => (first, second) :: pairUp rest
  | _ => []

/-- Groups numbers by three. -/
def tripleUp : List Nat → List (Nat × Nat × Nat)
  | first :: second :: third :: rest => (first, second, third) :: tripleUp rest
  | _ => []

/-- Reads a table of triples from its written form. -/
def tripleTable (text : String) : Array (Nat × Nat × Nat) :=
  (tripleUp (hexNumbers text.toList)).toArray

/-- The position of the last entry whose key does not exceed `point`, between `low` and `high`. -/
def lastAtMost (key : Nat → Nat) (point low high : Nat) : Nat :=
  if high ≤ low + 1 then low
  else
    let middle := (low + high) / 2
    if key middle ≤ point then lastAtMost key point middle high
    else lastAtMost key point low middle
termination_by high - low

/-! ## Ranges -/

/-- Sorted disjoint ranges of code points, both ends included. -/
structure RangeTable where
  ranges : Array (Nat × Nat)

/-- Reads a table from its written form: the first and last code point of each range. -/
def RangeTable.ofText (text : String) : RangeTable :=
  ⟨(pairUp (hexNumbers text.toList)).toArray⟩

/-- Some range of the table covers the code point. -/
def RangeTable.contains (table : RangeTable) (point : Nat) : Bool :=
  let start (i : Nat) : Nat := (table.ranges[i]?.getD (0, 0)).1
  match table.ranges[lastAtMost start point 0 table.ranges.size]? with
  | some (first, last) => decide (first ≤ point) && decide (point ≤ last)
  | none => false

/-! ## Runs -/

/-- The code points `first, first + step, …, last`, with the images `target, target + step, …`. -/
structure PointRun where
  first : Nat
  last : Nat
  step : Nat
  target : Nat

/-- A code point belongs to a run when it is one of the run's members. -/
def PointRun.contains (run : PointRun) (point : Nat) : Bool :=
  Nat.ble run.first point && Nat.ble point run.last &&
    Nat.beq ((point - run.first) % run.step) 0

/-- The image of a member of the run. -/
def PointRun.image (run : PointRun) (point : Nat) : Nat :=
  run.target + (point - run.first)

/-! ## Mappings -/

/-- A mapping of code points to sequences of code points; both parts are sorted. -/
structure PointTable where
  runs : Array PointRun
  expansions : Array (Nat × List Nat)

/-- Groups numbers by four into runs. -/
def runsOfNumbers : List Nat → List PointRun
  | first :: last :: step :: target :: rest => ⟨first, last, step, target⟩ :: runsOfNumbers rest
  | _ => []

/-- A code point followed by its image. -/
def expansionOfNumbers : List Nat → Option (Nat × List Nat)
  | [] => none
  | point :: image => some (point, image)

/-- Reads a table from its written form. -/
def PointTable.ofText (runs expansions : String) : PointTable where
  runs := (runsOfNumbers (hexNumbers runs.toList)).toArray
  expansions :=
    ((pieces (· == ';') expansions.toList).filterMap
      (fun entry => expansionOfNumbers (hexNumbers entry))).toArray

/-- The image of a code point, unless the table leaves it alone. -/
def PointTable.find? (table : PointTable) (point : Nat) : Option (List Nat) :=
  let expansionKey (i : Nat) : Nat := (table.expansions[i]?.getD (0, [])).1
  let runKey (i : Nat) : Nat := (table.runs[i]?.getD ⟨0, 0, 0, 0⟩).first
  match table.expansions[lastAtMost expansionKey point 0 table.expansions.size]? with
  | some (key, image) =>
    if key = point then some image else inRuns runKey
  | none => inRuns runKey
where
  /-- The image that the runs give a code point. -/
  inRuns (runKey : Nat → Nat) : Option (List Nat) :=
    match table.runs[lastAtMost runKey point 0 table.runs.size]? with
    | some run => if run.contains point then some [run.image point] else none
    | none => none

/-- The image of a code point, which is the code point itself if the table leaves it alone. -/
def PointTable.apply (table : PointTable) (point : Nat) : List Nat :=
  (table.find? point).getD [point]

end SignOn.Text
