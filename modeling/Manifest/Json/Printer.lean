import Manifest.Json.Basic
import Manifest.Text.Quoted

/-!
# Printing JSON

Trees are printed without blanks.  What is no finite number is printed as
`null`, and only quotes, backslashes and control characters are escaped.
-/

namespace Manifest.Json

/-- Floating point numbers show the sign of a positive exponent. -/
def floatText : FloatText := ⟨"+", "null", "null", "null"⟩

/-- How a character is written inside a text. -/
def escapedChar (char : Char) : List Char :=
  if char = '"' then ['\\', '"']
  else if char = '\\' then ['\\', '\\']
  else if char = '\n' then ['\\', 'n']
  else if char = '\r' then ['\\', 'r']
  else if char = '\t' then ['\\', 't']
  else if char = '\x08' then ['\\', 'b']
  else if char = '\x0c' then ['\\', 'f']
  else if char.toNat < 0x20 then
    ['\\', 'u', '0', '0', Text.hexDigit (char.toNat / 16), Text.hexDigit (char.toNat % 16)]
  else [char]

/-- A text between quotes. -/
def quoted (content : String) : String :=
  String.ofList ('"' :: content.toList.flatMap escapedChar ++ ['"'])

mutual

/-- The text of a tree. -/
def render : Json → String
  | null => "null"
  | bool truth => if truth then "true" else "false"
  | int number => toString number
  | float number => floatText.render number
  | text content => quoted content
  | array elements => "[" ++ ",".intercalate (renderElements elements) ++ "]"
  | object members => "\x7b" ++ ",".intercalate (renderMembers members) ++ "\x7d"

/-- The texts of elements. -/
def renderElements : List Json → List String
  | [] => []
  | element :: rest => element.render :: renderElements rest

/-- The texts of members. -/
def renderMembers : List (String × Json) → List String
  | [] => []
  | (name, member) :: rest => (quoted name ++ ":" ++ member.render) :: renderMembers rest

end

end Manifest.Json
