import SignOn.Profile.Basic
import SignOn.Text.Blank
import SignOn.Text.PointTable

/-!
# Reading profiles

A profile file is read line by line. Headers in brackets open sections, `tag = {` opens a
subsection, a closing brace closes the innermost one, and `tag = value` is a relation. A header also
closes all subsections. Everything else is skipped, and include directives are not followed.

A file adds to the profile read before it, but not to keys that are already there: of several files
the first one with a key decides on its values.
-/

set_option autoImplicit false

namespace SignOn.Profile

open Text

/-- What a line says. -/
inductive Line where
  /-- Nothing: blank, a comment, or not understood. -/
  | skipped
  /-- An include directive. -/
  | includes (directive : List Char)
  /-- The header of a section. -/
  | header (name : List Char)
  /-- The end of a subsection. -/
  | close
  /-- The start of a subsection. -/
  | subsection (tag : List Char)
  /-- A relation. -/
  | relation (tag value : List Char)
  deriving DecidableEq

/-- The text before and after the first occurrence of a character. -/
def splitAtFirst (mark : Char) : List Char → Option (List Char × List Char)
  | [] => none
  | c :: rest =>
    if c = mark then some ([], rest)
    else (splitAtFirst mark rest).map (fun (before, after) => (c :: before, after))

/-- Understands a line that has been trimmed. -/
def Line.ofTrimmed (line : List Char) : Line :=
  if line.isEmpty || line.head? == some '#' || line.head? == some ';' then .skipped
  else if "include".toList.isPrefixOf line then .includes line
  else if line.head? == some '[' && line.getLast? == some ']' then
    .header (trim (line.tail.dropLast))
  else if line == ['\x7d'] then .close
  else
    match splitAtFirst '=' line with
    | none => .skipped
    | some (tag, value) =>
      if trim value == ['\x7b'] then .subsection (trim tag) else .relation (trim tag) (trim value)

/-- The lines of a text, understood. -/
def linesOf (text : String) : List Line :=
  (lines text.toList).map (fun line => Line.ofTrimmed (trim line))

/-- How far the reading of a file has come. -/
structure Reading where
  profile : Profile
  /-- The section that relations belong to; before the first header there is none. -/
  current : Option String := none
  /-- The tags of the open subsections, the innermost first. -/
  path : List (List Char) := []
  /-- The sections and keys that this file has set. -/
  own : List (String × String) := []

/-- Tags with points between them. -/
def dotted : List (List Char) → List Char
  | [] => []
  | [tag] => tag
  | tag :: rest => tag ++ '.' :: dotted rest

/-- The key of a relation inside subsections: the dotted path of tags. An asterisk at the end marks
a relation as final and does not belong to the key. -/
def keyOf (path : List (List Char)) (tag : List Char) : String :=
  String.ofList (dropEndWhile (· == '*') (dotted (path.reverse ++ [tag])))

/-- Reads a relation. A key that the profile had before this file stays as it is. -/
def Reading.relate (reading : Reading) (name : String) (tag value : List Char) : Reading :=
  let key := keyOf reading.path tag
  if reading.profile.has name key && !reading.own.contains (name, key) then reading
  else
    { reading with
      profile := reading.profile.add name key (String.ofList value)
      own := (name, key) :: reading.own }

/-- Reads a line. -/
def Reading.step (reading : Reading) : Line → Reading
  | .skipped | .includes _ => reading
  | .header name =>
    { reading with
      profile := reading.profile.openSection (String.ofList name)
      current := some (String.ofList name)
      path := [] }
  | line =>
    match reading.current with
    | none => reading
    | some name =>
      match line with
      | .close => { reading with path := reading.path.tail }
      | .subsection tag => { reading with path := tag :: reading.path }
      | .relation tag value => reading.relate name tag value
      | _ => reading

/-- Adds what a text says to a profile. -/
def read (profile : Profile) (text : String) : Profile :=
  ((linesOf text).foldl Reading.step { profile := profile }).profile

/-- The include directives of a text, none of which is followed. -/
def includesOf (text : String) : List String :=
  (linesOf text).filterMap (fun line =>
    match line with
    | .includes directive => some (String.ofList directive)
    | _ => none)

end SignOn.Profile
