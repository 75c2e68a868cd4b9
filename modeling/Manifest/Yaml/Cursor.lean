import Manifest.Yaml.Character

/-!
# Places in a YAML text

A cursor holds the rest of a text together with its place: the number of bytes
in UTF-8, the line, and the column in characters, all counted from zero.
-/

namespace Manifest.Yaml

/-- The rest of a text and its place. -/
structure Cursor where
  rest : List Char
  index : Nat := 0
  line : Nat := 0
  /-- The number of characters before the rest on its line. -/
  column : Nat := 0

namespace Cursor

/-- The number of bytes of the first characters of a text. -/
def bytes (text : List Char) (count : Nat) : Nat :=
  (text.take count).foldl (fun sum char => sum + char.utf8Size) 0

/-- Behind some characters of the same line. -/
def skip (cursor : Cursor) (count : Nat) : Cursor :=
  { cursor with
    rest := cursor.rest.drop count
    index := cursor.index + bytes cursor.rest count
    column := cursor.column + count }

/-- Behind the characters that satisfy a condition, none of which is a break. -/
def skipWhile (cursor : Cursor) (condition : Char → Bool) : Cursor :=
  cursor.skip (cursor.rest.takeWhile condition).length

/-- At the start of the next line, behind a break of some characters. -/
def nextLine (cursor : Cursor) (count : Nat) : Cursor :=
  { rest := cursor.rest.drop count
    index := cursor.index + bytes cursor.rest count
    line := cursor.line + 1
    column := 0 }

/-- Behind the break at the cursor, if there is one. -/
def skipBreak (cursor : Cursor) : Cursor :=
  match cursor.rest with
  | '\r' :: '\n' :: _ => cursor.nextLine 2
  | char :: _ => if isBreak char then cursor.nextLine 1 else cursor
  | [] => cursor

/-- What the break at the cursor contributes to a text. -/
def breakText (cursor : Cursor) : List Char :=
  match cursor.rest with
  | [] => []
  | char :: _ =>
      if char = '\u2028' || char = '\u2029' then [char]
      else if isBreak char then ['\n']
      else []

/-- Behind a comment at the cursor, if there is one. -/
def skipComment (cursor : Cursor) : Cursor :=
  if startsWith '#' cursor.rest then cursor.skipWhile fun char => !isBreak char else cursor

/-- The end of the line behind blanks and a comment, which must be all it holds. -/
def finishLine? (cursor : Cursor) : Option Cursor :=
  let finish := (cursor.skipWhile isSpaceOrTab).skipComment
  if atBreak finish.rest then some finish.skipBreak else none

end Cursor

end Manifest.Yaml
