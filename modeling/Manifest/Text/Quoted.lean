import Manifest.Text.Visible

/-!
# Quoted texts

Messages show a text that came from a document between double quotes.  The
quote and the backslash are escaped, the four common control characters have
short forms, and every other character that would not show by itself is
written as its code point in braces.
-/

namespace Manifest.Text

/-- A digit of base sixteen, in lower case. -/
def hexDigit (digit : Nat) : Char :=
  if digit < 10 then Char.ofNat (48 + digit) else Char.ofNat (87 + digit)

/-- The digits of a number in base sixteen, most significant first. -/
def hexDigits (number : Nat) : List Char :=
  (Nat.toDigits 16 number)

/-- How one character is written between quotes. -/
def quotedChar (char : Char) : List Char :=
  if char = '"' then ['\\', '"']
  else if char = '\\' then ['\\', '\\']
  else if char = '\n' then ['\\', 'n']
  else if char = '\r' then ['\\', 'r']
  else if char = '\t' then ['\\', 't']
  else if char.toNat = 0 then ['\\', '0']
  else if isVisible char then [char]
  else ['\\', 'u', '\x7b'] ++ hexDigits char.toNat ++ ['\x7d']

/-- A text between double quotes, as messages show it. -/
def quoted (text : String) : String :=
  String.ofList ('"' :: text.toList.flatMap quotedChar ++ ['"'])

example : quoted "a\"b\n" = "\"a\\\"b\\n\"" := by decide

example : quoted "\x1b" = "\"\\u\x7b1b\x7d\"" := by decide

end Manifest.Text
