import Manifest.Text.Numeral
import Manifest.Yaml.Cursor
import Manifest.Yaml.Token.Basic

/-!
# Scalars of YAML texts

Plain, quoted and block scalars.  A single break inside a plain or quoted
scalar reads as a space and further breaks are kept; blanks around breaks are
dropped.  Block scalars keep their breaks, or join lines that do not start
with a blank.
-/

namespace Manifest.Yaml

/-- The blanks and breaks between two words of a scalar. -/
structure Gap where
  blanks : String := ""
  leadingBreak : String := ""
  trailingBreaks : String := ""
  broken : Bool := false

namespace Gap

/-- What the first break and the further ones become between two words. -/
def foldBreaks (leadingBreak trailingBreaks : String) : String :=
  if leadingBreak = "\n" then
    if trailingBreaks = "" then " " else trailingBreaks
  else leadingBreak ++ trailingBreaks

/-- What a gap becomes between two words. -/
def text (gap : Gap) : String :=
  if gap.broken then foldBreaks gap.leadingBreak gap.trailingBreaks else gap.blanks

/-- The gap with the break at the cursor. -/
def addBreak (gap : Gap) (cursor : Cursor) : Gap :=
  let lineBreak := String.ofList cursor.breakText
  if gap.broken then { gap with trailingBreaks := gap.trailingBreaks ++ lineBreak }
  else { gap with blanks := "", leadingBreak := lineBreak, broken := true }

/--
The gap at the cursor.  Where `indent` is given, a tab before that column at
the start of a line is refused.
-/
def scan? (indent : Option Int) : Nat → Gap → Cursor → Option (Gap × Cursor)
  | 0, gap, cursor => some (gap, cursor)
  | fuel + 1, gap, cursor =>
      match cursor.rest with
      | [] => some (gap, cursor)
      | char :: _ =>
          if isSpaceOrTab char then
            if gap.broken && char = '\t' && indent.any (Int.ofNat cursor.column < ·) then none
            else if gap.broken then scan? indent fuel gap (cursor.skip 1)
            else scan? indent fuel { gap with blanks := gap.blanks.push char } (cursor.skip 1)
          else if isBreak char then scan? indent fuel (gap.addBreak cursor) cursor.skipBreak
          else some (gap, cursor)

end Gap

/-- A character that ends a plain scalar inside brackets. -/
def isFlowDelimiter (char : Char) : Bool :=
  char = ',' || char = '[' || char = ']' || char = '\x7b' || char = '\x7d'

/-- A colon inside brackets that is neither part of a word nor the end of a key. -/
def isStrayColon : List Char → Bool
  | ':' :: char :: _ => isFlowDelimiter char || char = '?'
  | _ => false

/--
The characters of a plain scalar up to a blank, a break or an indicator that
ends it, in reverse.
-/
def plainWord? (inFlow : Bool) : List Char → List Char → Option (List Char)
  | reversed, [] => some reversed
  | reversed, char :: rest =>
      if isBlankOrBreak char then some reversed
      else if inFlow && isStrayColon (char :: rest) then none
      else if (char = ':' && atBlank rest) || (inFlow && isFlowDelimiter char) then
        some reversed
      else plainWord? inFlow (char :: reversed) rest

/-- The words of a plain scalar; the result says whether it ends at a new line. -/
def plainWords? (inFlow : Bool) (indent : Int) :
    Nat → String → Gap → Cursor → Option (String × Bool × Cursor)
  | 0, text, gap, cursor => some (text, gap.broken, cursor)
  | fuel + 1, text, gap, cursor =>
      if cursor.column = 0 && atDocumentMark cursor.rest then
        some (text, gap.broken, cursor)
      else if startsWith '#' cursor.rest then some (text, gap.broken, cursor)
      else
        match plainWord? inFlow [] cursor.rest with
        | none => none
        | some [] => some (text, gap.broken, cursor)
        | some reversed =>
            let read := text ++ gap.text ++ String.ofList reversed.reverse
            let after := cursor.skip reversed.length
            match Gap.scan? (some indent) (after.rest.length + 1) {} after with
            | none => none
            | some (next, further) =>
                if further.index = after.index then some (read, false, after)
                else if !inFlow && Int.ofNat further.column < indent then
                  some (read, next.broken, further)
                else plainWords? inFlow indent fuel read next further

/-- A plain scalar at the cursor. -/
def scanPlain? (inFlow : Bool) (parentIndent : Int) (cursor : Cursor) :
    Option (Token × Bool × Cursor) :=
  (plainWords? inFlow (parentIndent + 1) (cursor.rest.length + 1) "" {} cursor).map
    fun found => (.scalar found.1 .plain, found.2.1, found.2.2)

/-- The character of a short escape between double quotes. -/
def escapedChar? (char : Char) : Option Char :=
  match char with
  | '0' => some '\x00'
  | 'a' => some '\x07'
  | 'b' => some '\x08'
  | 't' => some '\t'
  | '\t' => some '\t'
  | 'n' => some '\n'
  | 'v' => some '\x0b'
  | 'f' => some '\x0c'
  | 'r' => some '\r'
  | 'e' => some '\x1b'
  | ' ' => some ' '
  | '"' => some '"'
  | '/' => some '/'
  | '\\' => some '\\'
  | 'N' => some '\x85'
  | '_' => some '\xa0'
  | 'L' => some '\u2028'
  | 'P' => some '\u2029'
  | _ => none

/-- How many digits of base sixteen follow an escape. -/
def escapeLength? (char : Char) : Option Nat :=
  match char with
  | 'x' => some 2
  | 'u' => some 4
  | 'U' => some 8
  | _ => none

/-- The number of a list of digits of base sixteen. -/
def hexNumber? (digits : List Char) : Option Nat :=
  digits.foldl
    (fun value digit =>
      match value, Text.digitValue? 16 digit with
      | some number, some next => some (number * 16 + next)
      | _, _ => none)
    (some 0)

/-- The character of a code point, unless it is a surrogate or too large. -/
def charOfCode? (code : Nat) : Option Char :=
  if (0xD800 ≤ code && code ≤ 0xDFFF) || 0x10FFFF < code then none
  else some (Char.ofNat code)

/-- The character of an escape with digits, and how many characters it takes. -/
def codeEscape? (mark : Char) (rest : List Char) : Option (Char × Nat) :=
  match escapeLength? mark with
  | none => none
  | some length =>
      if rest.length < length then none
      else
        ((hexNumber? (rest.take length)).bind charOfCode?).map fun char =>
          (char, length + 2)

/-- What a run of characters between quotes gives. -/
structure QuotedRun where
  reversed : List Char
  taken : Nat
  escapedBreak : Bool

/--
The characters between quotes up to a blank, a break, the closing quote or an
escaped break.
-/
def quotedRun? (single : Bool) : Nat → List Char → Nat → List Char → Option QuotedRun
  | 0, reversed, taken, _ => some ⟨reversed, taken, false⟩
  | fuel + 1, reversed, taken, chars =>
      match chars with
      | [] => some ⟨reversed, taken, false⟩
      | char :: rest =>
          if isBlankOrBreak char then some ⟨reversed, taken, false⟩
          else if single then
            if char = '\x27' then
              match rest with
              | '\x27' :: more => quotedRun? single fuel ('\x27' :: reversed) (taken + 2) more
              | _ => some ⟨reversed, taken, false⟩
            else quotedRun? single fuel (char :: reversed) (taken + 1) rest
          else if char = '"' then some ⟨reversed, taken, false⟩
          else if char = '\\' then
            match rest with
            | [] => none
            | mark :: more =>
                if isBreak mark then some ⟨reversed, taken, true⟩
                else
                  match escapedChar? mark with
                  | some escaped =>
                      quotedRun? single fuel (escaped :: reversed) (taken + 2) more
                  | none =>
                      match codeEscape? mark more with
                      | some (escaped, length) =>
                          quotedRun? single fuel (escaped :: reversed) (taken + length)
                            (more.drop (length - 2))
                      | none => none
          else quotedRun? single fuel (char :: reversed) (taken + 1) rest

/-- The content of a quoted scalar; the cursor ends behind the closing quote. -/
def quotedWords? (single : Bool) : Nat → String → Cursor → Option (String × Cursor)
  | 0, _, _ => none
  | fuel + 1, text, cursor =>
      if cursor.column = 0 && atDocumentMark cursor.rest then none
      else if cursor.rest.isEmpty then none
      else
        match quotedRun? single (cursor.rest.length + 1) [] 0 cursor.rest with
        | none => none
        | some run =>
            let read := text ++ String.ofList run.reversed.reverse
            let after := cursor.skip run.taken
            if run.escapedBreak then
              let next := (after.skip 1).skipBreak
              match Gap.scan? none (next.rest.length + 1) { broken := true } next with
              | none => none
              | some (gap, further) => quotedWords? single fuel (read ++ gap.text) further
            else if startsWith (if single then '\x27' else '"') after.rest then
              some (read, after.skip 1)
            else
              match Gap.scan? none (after.rest.length + 1) {} after with
              | none => none
              | some (gap, further) => quotedWords? single fuel (read ++ gap.text) further

/-- A quoted scalar at the cursor. -/
def scanQuoted? (single : Bool) (cursor : Cursor) : Option (Token × Cursor) :=
  (quotedWords? single (cursor.rest.length + 1) "" (cursor.skip 1)).map fun found =>
    (.scalar found.1 (if single then .singleQuoted else .doubleQuoted), found.2)

/-- What happens to the breaks at the end of a block scalar. -/
inductive Chomping where
  | strip
  | clip
  | keep
deriving DecidableEq

/-- The chomping that an indicator asks for. -/
def chompingOf? (char : Char) : Option Chomping :=
  if char = '+' then some .keep else if char = '-' then some .strip else none

/-- The header of a block scalar: its chomping and its indentation, if it is given. -/
def blockHeader? (cursor : Cursor) : Option (Chomping × Nat × Cursor) :=
  match cursor.rest with
  | first :: second :: _ =>
      match chompingOf? first with
      | some chomping =>
          if second = '0' then none
          else if second.isDigit then
            some (chomping, second.toNat - 48, cursor.skip 2)
          else some (chomping, 0, cursor.skip 1)
      | none =>
          if first = '0' then none
          else if first.isDigit then
            match chompingOf? second with
            | some chomping => some (chomping, first.toNat - 48, cursor.skip 2)
            | none => some (.clip, first.toNat - 48, cursor.skip 1)
          else some (.clip, 0, cursor)
  | [first] =>
      match chompingOf? first with
      | some chomping => some (chomping, 0, cursor.skip 1)
      | none =>
          if first = '0' then none
          else if first.isDigit then some (.clip, first.toNat - 48, cursor.skip 1)
          else some (.clip, 0, cursor)
  | [] => some (.clip, 0, cursor)

/-- Behind the spaces up to a column; without a column behind all spaces. -/
def skipIndent (indent : Nat) (cursor : Cursor) : Cursor :=
  let spaces := (cursor.rest.takeWhile (· = ' ')).length
  cursor.skip (if indent = 0 then spaces else min spaces (indent - cursor.column))

/--
The empty lines of a block scalar: the greatest column met, their breaks, and
the place behind them.
-/
def blockBreaks? (indent : Nat) :
    Nat → Nat → String → Cursor → Option (Nat × String × Cursor)
  | 0, greatest, breaks, cursor => some (greatest, breaks, cursor)
  | fuel + 1, greatest, breaks, cursor =>
      let inner := skipIndent indent cursor
      let column := max greatest inner.column
      if (indent = 0 || inner.column < indent) && startsWith '\t' inner.rest then none
      else
        match inner.rest with
        | [] => some (column, breaks, inner)
        | char :: _ =>
            if isBreak char then
              blockBreaks? indent fuel column (breaks ++ String.ofList inner.breakText)
                inner.skipBreak
            else some (column, breaks, inner)

/-- What has been read of a block scalar. -/
structure BlockText where
  text : String := ""
  leadingBreak : String := ""
  trailingBreaks : String := ""
  leadingBlank : Bool := false

/-- The lines of a block scalar. -/
def blockLines? (isLiteral : Bool) (indent : Nat) :
    Nat → BlockText → Cursor → Option (BlockText × Cursor)
  | 0, block, cursor => some (block, cursor)
  | fuel + 1, block, cursor =>
      match cursor.rest with
      | [] => some (block, cursor)
      | first :: _ =>
          if cursor.column ≠ indent then some (block, cursor)
          else
            let blank := isSpaceOrTab first
            let joined :=
              if !isLiteral && block.leadingBreak = "\n" && !block.leadingBlank &&
                  !blank then
                if block.trailingBreaks = "" then " " else ""
              else block.leadingBreak
            let line := cursor.rest.takeWhile fun char => !isBreak char
            let after := cursor.skip line.length
            let text := block.text ++ joined ++ block.trailingBreaks ++ String.ofList line
            match blockBreaks? indent (after.rest.length + 1) 0 "" after.skipBreak with
            | none => none
            | some (_, breaks, next) =>
                blockLines? isLiteral indent fuel
                  { text := text
                    leadingBreak := String.ofList after.breakText
                    trailingBreaks := breaks
                    leadingBlank := blank }
                  next

/-- The content of a block scalar with its end chomped. -/
def BlockText.chomp (block : BlockText) : Chomping → String
  | .strip => block.text
  | .clip => block.text ++ block.leadingBreak
  | .keep => block.text ++ block.leadingBreak ++ block.trailingBreaks

/-- A block scalar at the cursor. -/
def scanBlock? (isLiteral : Bool) (parentIndent : Int) (cursor : Cursor) :
    Option (Token × Cursor) :=
  match blockHeader? (cursor.skip 1) with
  | none => none
  | some (chomping, increment, header) =>
      match header.finishLine? with
      | none => none
      | some start =>
          let given :=
            if increment = 0 then 0
            else if 0 ≤ parentIndent then parentIndent.toNat + increment else increment
          let fuel := start.rest.length + 1
          match blockBreaks? given fuel 0 "" start with
          | none => none
          | some (greatest, breaks, first) =>
              let indent :=
                if given = 0 then max (max greatest (parentIndent + 1).toNat) 1 else given
              (blockLines? isLiteral indent fuel { trailingBreaks := breaks } first).map
                fun found =>
                  (.scalar (found.1.chomp chomping)
                    (if isLiteral then .literal else .folded), found.2)

end Manifest.Yaml
