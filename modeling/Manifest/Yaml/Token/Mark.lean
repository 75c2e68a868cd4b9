import Manifest.Text.Numeral
import Manifest.Yaml.Cursor
import Manifest.Yaml.Token.Basic

/-!
# Anchors, tags and directives of YAML texts

An anchor names a node and an alias refers to it.  A tag is a handle with a
suffix, or a whole name between angle brackets.  Directives stand before a
document; they state the version of the notation and give handles a meaning.
-/

namespace Manifest.Yaml

/-- Whether an anchor can end before a text. -/
def endsAnchor : List Char → Bool :=
  startsOrEnds fun char =>
    isBlankOrBreak char || "?:,]\x7d%@`".toList.contains char

/-- The name of an anchor or an alias behind its indicator. -/
def scanAnchorName? (cursor : Cursor) : Option (String × Cursor) :=
  let start := cursor.skip 1
  let name := start.rest.takeWhile isWordChar
  let after := start.skip name.length
  if name.isEmpty || !endsAnchor after.rest then none
  else some (String.ofList name, after)

/-- A character of tags; commas and brackets only between angle brackets. -/
def isTagChar (verbatim : Bool) (char : Char) : Bool :=
  isWordChar char || ";/?:@&=+$.!~*'()%".toList.contains char ||
    (verbatim && (char = ',' || char = '[' || char = ']'))

/-- The octet that a percent sign and two digits denote. -/
def octet? : List Char → Option Nat
  | '%' :: high :: low :: _ =>
      match Text.digitValue? 16 high, Text.digitValue? 16 low with
      | some first, some second => some (first * 16 + second)
      | _, _ => none
  | _ => none

/-- The code point that further octets complete; each must continue it. -/
def moreOctets? : Nat → Nat → List Char → Option Nat
  | 0, code, _ => some code
  | count + 1, code, chars =>
      match octet? chars with
      | some octet =>
          if octet / 64 = 2 then moreOctets? count (code * 64 + octet % 64) (chars.drop 3)
          else none
      | none => none

/-- The character that some octets denote, the first of which is followed by `count` others. -/
def denoted? (count code : Nat) : Option Char :=
  let isShortest :=
    if count = 0 then true
    else if count = 1 then 0x80 ≤ code
    else if count = 2 then 0x800 ≤ code
    else 0x10000 ≤ code
  if isShortest && (code < 0xD800 || (0xE000 ≤ code && code ≤ 0x10FFFF)) then
    some (Char.ofNat code)
  else none

/-- What an escape of one to four octets denotes, and how many characters it takes. -/
def uriEscape? (chars : List Char) : Option (Option Char × Nat) :=
  match octet? chars with
  | none => none
  | some octet =>
      let shape : Option (Nat × Nat) :=
        if octet < 128 then some (octet, 0)
        else if octet / 32 = 6 then some (octet % 32, 1)
        else if octet / 16 = 14 then some (octet % 16, 2)
        else if octet / 8 = 30 then some (octet % 8, 3)
        else none
      match shape with
      | none => none
      | some (start, count) =>
          (moreOctets? count start (chars.drop 3)).map fun code =>
            (denoted? count code, 3 * (count + 1))

/-- The characters of a tag, in reverse, and how many characters they take. -/
def tagChars? (verbatim : Bool) :
    Nat → List (Option Char) → Nat → List Char → Option (List (Option Char) × Nat)
  | 0, reversed, taken, _ => some (reversed, taken)
  | fuel + 1, reversed, taken, chars =>
      match chars with
      | [] => some (reversed, taken)
      | char :: rest =>
          if !isTagChar verbatim char then some (reversed, taken)
          else if char = '%' then
            match uriEscape? chars with
            | some (escaped, length) =>
                tagChars? verbatim fuel (escaped :: reversed) (taken + length)
                  (chars.drop length)
            | none => none
          else tagChars? verbatim fuel (some char :: reversed) (taken + 1) rest

/--
The rest of a tag at the cursor.  What has been read of it as a handle counts
for its length, which must not be zero, and is kept without its first mark.
Nothing is kept of what stands behind a zero.
-/
def scanTagRest? (verbatim : Bool) (head : String) (cursor : Cursor) :
    Option (Tag × Cursor) :=
  match tagChars? verbatim (cursor.rest.length + 1) [] 0 cursor.rest with
  | none => none
  | some (reversed, taken) =>
      if reversed.isEmpty && head = "" then none
      else
        let tag : Tag := ⟨(head.toList.drop 1).map some ++ reversed.reverse⟩
        some (tag.beforeZero, cursor.skip taken)

/-- The handle at the cursor: a mark, and a name with another mark behind it, if any. -/
def scanHandle? (cursor : Cursor) : Option (String × Cursor) :=
  if startsWith '!' cursor.rest then
    let name := (cursor.rest.drop 1).takeWhile isWordChar
    let after := cursor.skip (name.length + 1)
    if startsWith '!' after.rest then
      some (String.ofList ('!' :: name ++ ['!']), after.skip 1)
    else some (String.ofList ('!' :: name), after)
  else none

/-- Whether a handle has a mark at both ends. -/
def isFullHandle (handle : String) : Bool :=
  1 < handle.length && handle.toList.getLast? == some '!'

/-- Whether a tag can end before a text. -/
def endsTag (inFlow : Bool) (chars : List Char) : Bool :=
  (inFlow && startsWith ',' chars) || atBlank chars

/-- A tag between angle brackets. -/
def scanVerbatimTag? (cursor : Cursor) : Option (Token × Cursor) :=
  match scanTagRest? true "" (cursor.skip 2) with
  | some (suffix, after) =>
      if startsWith '>' after.rest then some (.tag "" suffix, after.skip 1) else none
  | none => none

/-- A tag that starts with a handle. -/
def scanHandleTag? (cursor : Cursor) : Option (Token × Cursor) :=
  match scanHandle? cursor with
  | none => none
  | some (handle, after) =>
      if isFullHandle handle then
        (scanTagRest? false "" after).map fun found => (.tag handle found.1, found.2)
      else
        (scanTagRest? false handle after).map fun found =>
          (if found.1.chars.isEmpty then .tag "" Tag.mark else .tag "!" found.1, found.2)

/-- A tag at the cursor. -/
def scanTag? (inFlow : Bool) (cursor : Cursor) : Option (Token × Cursor) :=
  let found :=
    if startsWith '<' (cursor.rest.drop 1) then scanVerbatimTag? cursor
    else scanHandleTag? cursor
  found.filter fun tag => endsTag inFlow tag.2.rest

/-- A number of a version, of at most nine digits. -/
def scanVersionNumber? (cursor : Cursor) : Option (Nat × Cursor) :=
  let digits := cursor.rest.takeWhile Char.isDigit
  if digits.isEmpty || 9 < digits.length then none
  else some (Text.decimalValue digits, cursor.skip digits.length)

/-- The version behind the name of its directive. -/
def scanVersion? (cursor : Cursor) : Option (Token × Cursor) :=
  match scanVersionNumber? (cursor.skipWhile isSpaceOrTab) with
  | none => none
  | some (major, point) =>
      if startsWith '.' point.rest then
        (scanVersionNumber? (point.skip 1)).map fun found =>
          (.versionDirective major found.1, found.2)
      else none

/-- The handle and its meaning behind the name of their directive. -/
def scanTagMeaning? (cursor : Cursor) : Option (Token × Cursor) :=
  match scanHandle? (cursor.skipWhile isSpaceOrTab) with
  | none => none
  | some (handle, after) =>
      if handle != "!" && !isFullHandle handle then none
      else if !(after.rest.head?.any isSpaceOrTab) then none
      else
        match scanTagRest? true "" (after.skipWhile isSpaceOrTab) with
        | some (meaning, finish) =>
            if atBlank finish.rest then some (.tagDirective handle meaning, finish) else none
        | none => none

/-- A directive at the cursor; it takes its whole line. -/
def scanDirective? (cursor : Cursor) : Option (Token × Cursor) :=
  let start := cursor.skip 1
  let name := start.rest.takeWhile isWordChar
  let after := start.skip name.length
  if name.isEmpty || !atBlank after.rest then none
  else
    let found :=
      if name = "YAML".toList then scanVersion? after
      else if name = "TAG".toList then scanTagMeaning? after
      else none
    match found with
    | some (token, finish) => finish.finishLine?.map fun next => (token, next)
    | none => none

end Manifest.Yaml
