import SignOn.Text.Quoted
import SignOn.Text.Decimal

/-!
# Property values

The values that connection properties and event details may have. A value has two written forms:
its literal, in which texts are quoted, and its plain text, which is the same except that a text
stands for itself.
-/

set_option autoImplicit false

namespace SignOn

open Text

/-- A value of a connection property or of an event detail. -/
inductive Value where
  | null
  | bool (value : Bool)
  | integer (value : Int)
  | decimal (value : Decimal)
  | text (value : String)
  | list (items : List Value)
  | record (entries : List (String × Value))

namespace Value

mutual

/-- The literal of a value: texts are quoted, also inside lists and records. -/
def literal : Value → String
  | .null => "None"
  | .bool true => "True"
  | .bool false => "False"
  | .integer value => toString value
  | .decimal value => value.text
  | .text value => quoted value
  | .list items => "[" ++ ", ".intercalate (literals items) ++ "]"
  | .record entries => "\x7b" ++ ", ".intercalate (entryLiterals entries) ++ "\x7d"

/-- The literals of a list's items. -/
def literals : List Value → List String
  | [] => []
  | item :: rest => item.literal :: literals rest

/-- The literals of a record's entries, each with its quoted key. -/
def entryLiterals : List (String × Value) → List String
  | [] => []
  | (key, value) :: rest => (quoted key ++ ": " ++ value.literal) :: entryLiterals rest

end

/-- The plain text of a value. -/
def plain : Value → String
  | .text value => value
  | value => value.literal

/-- A value that says nothing: null, false, zero or empty. -/
def isEmpty : Value → Bool
  | .null => true
  | .bool value => !value
  | .integer value => value == 0
  | .decimal value => value.isZero
  | .text value => value.isEmpty
  | .list items => items.isEmpty
  | .record entries => entries.isEmpty

/-- The text or null. -/
def ofText? : Option String → Value
  | some value => .text value
  | none => .null

/-- The integer or null. -/
def ofInteger? : Option Int → Value
  | some value => .integer value
  | none => .null

end Value

end SignOn
