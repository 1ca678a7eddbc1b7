/-!
# Blanks and line ends

Which characters count as blank, trimming, and the division of a text into lines. A text is read
as lines that end at any of ten separators; a carriage return followed by a line feed ends one line.
-/

set_option autoImplicit false

namespace SignOn.Text

/-- The blank characters. -/
def isBlank (c : Char) : Bool :=
  let point := c.toNat
  (9 ≤ point && point ≤ 13) || (28 ≤ point && point ≤ 32) || point == 0x85 || point == 0xA0 ||
    point == 0x1680 || (0x2000 ≤ point && point ≤ 0x200A) || point == 0x2028 || point == 0x2029 ||
    point == 0x202F || point == 0x205F || point == 0x3000

/-- A text less its blanks at the start. -/
def trimStart (text : List Char) : List Char :=
  text.dropWhile isBlank

/-- A text less the characters at its end that satisfy `drops`. -/
def dropEndWhile (drops : Char → Bool) (text : List Char) : List Char :=
  (text.reverse.dropWhile drops).reverse

/-- A text less its blanks at both ends. -/
def trim (text : List Char) : List Char :=
  dropEndWhile isBlank (trimStart text)

/-- A text less its blanks at both ends. -/
def trimText (text : String) : String :=
  String.ofList (trim text.toList)

/-- The characters that end a line. -/
def isLineEnd (c : Char) : Bool :=
  let point := c.toNat
  (10 ≤ point && point ≤ 13) || (28 ≤ point && point ≤ 30) || point == 0x85 ||
    point == 0x2028 || point == 0x2029

/-- The lines of a text, without their line ends. A text that ends in a line end has no further,
empty line after it. -/
def lines : List Char → List (List Char)
  | [] => []
  | '\r' :: '\n' :: rest => [] :: lines rest
  | c :: rest =>
    if isLineEnd c then [] :: lines rest
    else
      match lines rest with
      | [] => [[c]]
      | first :: others => (c :: first) :: others

end SignOn.Text
