import Manifest.Json.Number

/-!
# Outlines of JSON texts

An outline is a JSON text of which only the form is known: numbers may be too
large for a value, surrogates may stand alone, and arrays and objects nest as
often as they like.  Where the tree is asked for, all of this is refused; parts
of a text that nobody asks for need to be well-formed only.
-/

namespace Manifest.Json

/-- Arrays and objects of a tree nest less often than this. -/
def nestingBound : Nat := 128

/-- A part of a quoted text. -/
inductive TextPart where
  | char (char : Char)
  /-- An escaped unit of 16 bits, which can be half of a surrogate pair. -/
  | unit (code : Nat)
deriving Repr

/-- The first half of a surrogate pair. -/
def isHighSurrogate (code : Nat) : Bool :=
  0xD800 ≤ code && code < 0xDC00

/-- The second half of a surrogate pair. -/
def isLowSurrogate (code : Nat) : Bool :=
  0xDC00 ≤ code && code < 0xE000

/-- The code point of a surrogate pair. -/
def pairCode (high low : Nat) : Nat :=
  0x10000 + (high - 0xD800) * 0x400 + (low - 0xDC00)

/-- The characters that parts denote, behind others in reverse; surrogates must come in pairs. -/
def charsOfParts? (reversed : List Char) : List TextPart → Option (List Char)
  | [] => some reversed.reverse
  | .char char :: rest => charsOfParts? (char :: reversed) rest
  | .unit code :: rest =>
      if isLowSurrogate code then none
      else if isHighSurrogate code then
        match rest with
        | .unit low :: more =>
            if isLowSurrogate low then
              charsOfParts? (Char.ofNat (pairCode code low) :: reversed) more
            else none
        | _ => none
      else charsOfParts? (Char.ofNat code :: reversed) rest

/-- The text that parts denote. -/
def textOfParts? (parts : List TextPart) : Option String :=
  (charsOfParts? [] parts).map String.ofList

/-- The form of a JSON text. -/
inductive Outline where
  | null
  | bool (truth : Bool)
  | number (numeral : Numeral)
  | text (parts : List TextPart)
  | array (elements : List Outline)
  | object (members : List (List TextPart × Outline))
deriving Repr, Inhabited

namespace Outline

mutual

/-- The tree of an outline; `depth` counts the nestings that are still allowed. -/
def toTree? (depth : Nat) : Outline → Option Json
  | null => some .null
  | bool truth => some (.bool truth)
  | number numeral => numeral.value?
  | text parts => (textOfParts? parts).map .text
  | array elements =>
      if depth ≤ 1 then none else (elementTrees? (depth - 1) elements).map .array
  | object members =>
      if depth ≤ 1 then none else (memberTrees? (depth - 1) members).map .object

/-- The trees of elements. -/
def elementTrees? (depth : Nat) : List Outline → Option (List Json)
  | [] => some []
  | element :: rest =>
      match element.toTree? depth with
      | none => none
      | some tree => (elementTrees? depth rest).map (tree :: ·)

/-- The names and trees of members. -/
def memberTrees? (depth : Nat) : List (List TextPart × Outline) → Option (List (String × Json))
  | [] => some []
  | (parts, member) :: rest =>
      match textOfParts? parts, member.toTree? depth with
      | some name, some tree => (memberTrees? depth rest).map ((name, tree) :: ·)
      | _, _ => none

end

end Outline

end Manifest.Json
