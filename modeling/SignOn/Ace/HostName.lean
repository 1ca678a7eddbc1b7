import SignOn.Ace.Folding
import SignOn.Ace.Normalization
import SignOn.Ace.Punycode

/-!
# The ASCII-compatible form of host names

A host name of ASCII characters is kept as it is, case included, once the sizes of its labels are
checked. In any other name each label that is not ASCII is prepared (folded, normalized, checked)
and, if it still is not ASCII, written in Punycode behind the mark `xn--`.
-/

set_option autoImplicit false

namespace SignOn.Ace

open Text

/-- Why a host name has no ASCII-compatible form. -/
inductive NameError where
  /-- A label is empty or has more than 63 characters. -/
  | labelSize
  /-- A prepared label holds a character that is not allowed. -/
  | prohibitedCharacter (c : Char)
  /-- A label mixes writing directions, or does not begin and end from right to left. -/
  | mixedDirections
  /-- A label outside ASCII begins with the mark of encoded labels. -/
  | reservedMark
  deriving DecidableEq

/-- The wording of an error. -/
def NameError.message : NameError → String
  | .labelSize => "label empty or too long"
  | .prohibitedCharacter c => "Invalid character " ++ c.toString
  | .mixedDirections => "Violation of the rules for writing directions"
  | .reservedMark => "Label starts with ACE prefix"

/-- Only ASCII characters. -/
def isAscii (text : List Char) : Bool := text.all (fun c => c.toNat < 0x80)

/-- The mark of an encoded label. -/
def encodedMark : List Char := ['x', 'n', '-', '-']

/-- The mapping of a code point before normalization; of the ASCII characters only the capital
letters are mapped. -/
def foldedPoint (point : Nat) : List Nat :=
  if point < 0x80 then [if 0x41 ≤ point ∧ point ≤ 0x5A then point + 0x20 else point]
  else foldingTable.apply point

/-- Maps the characters of a label before normalization. -/
def foldedPoints (label : List Char) : List Nat :=
  (label.filter (fun c => !vanishingTable.contains c.toNat)).flatMap
    (fun c => foldedPoint c.toNat)

/-- A label prepared for comparison. -/
def preparedLabel (label : List Char) : Except NameError (List Char) :=
  let points := normalized (foldedPoints label)
  match points.find? prohibitedTable.contains with
  | some point => .error (.prohibitedCharacter (Char.ofNat point))
  | none =>
    let fromRight := points.map rightToLeftTable.contains
    if fromRight.any id then
      if points.any leftToRightTable.contains then .error .mixedDirections
      else if fromRight.head? = some true ∧ fromRight.getLast? = some true then
        .ok (points.map Char.ofNat)
      else .error .mixedDirections
    else .ok (points.map Char.ofNat)

/-- A label of a permitted size. -/
def sizedLabel (label : List Char) : Except NameError (List Char) :=
  if 0 < label.length ∧ label.length < 64 then .ok label else .error .labelSize

/-- The ASCII-compatible form of a label. -/
def encodedLabel (label : List Char) : Except NameError (List Char) :=
  if isAscii label then sizedLabel label
  else do
    let prepared ← preparedLabel label
    if isAscii prepared then sizedLabel prepared
    else if encodedMark.isPrefixOf prepared then throw .reservedMark
    else sizedLabel (encodedMark ++ Punycode.encode (prepared.map Char.toNat))

/-- The characters that separate labels. -/
def isLabelSeparator (c : Char) : Bool :=
  c == '.' || c == '\u3002' || c == '\uFF0E' || c == '\uFF61'

/-- Labels with a point between each two. -/
def joinedLabels : List (List Char) → List Char
  | [] => []
  | [label] => label
  | label :: rest => label ++ '.' :: joinedLabels rest

/-- The form of a name of ASCII characters: the name itself, with every label but the last of a
permitted size and the last no longer than permitted. -/
def asciiName (name : List Char) : Except NameError (List Char) :=
  let labels := pieces (· == '.') name
  let isSized (label : List Char) : Bool := 0 < label.length && label.length < 64
  if labels.dropLast.all isSized && (labels.getLast?.getD []).length < 64 then .ok name
  else .error .labelSize

/-- The form of a name with characters beyond ASCII. One empty label at the end is kept as a final
point. -/
def encodedName (name : List Char) : Except NameError (List Char) := do
  let labels := pieces isLabelSeparator name
  let (labels, ending) :=
    if labels.getLast? = some [] then (labels.dropLast, ['.']) else (labels, [])
  let encoded ← labels.mapM encodedLabel
  return joinedLabels encoded ++ ending

/-- The ASCII-compatible form of a host name. -/
def toAscii (host : String) : Except NameError String :=
  let name := host.toList
  if name.isEmpty then .ok host
  else if isAscii name then (asciiName name).map String.ofList
  else (encodedName name).map String.ofList

end SignOn.Ace
